/-
Loaded settings. Wherever settings come from, they keep the rules
(`validate_of_load`): those of a file are checked, and the standard ones
are as they should be. Whoever loads settings can count on that, and need
not look for an empty list of kinds again (`kinds_ne_nil_of_load`). The
name of the program is not among the rules and is looked at only when a
client is made; the standard one is fit for it (`client_standard`).
-/
import Marginalia.Config.Lookup
import Marginalia.Local

namespace Marginalia

section

variable {α β ε ε' : Type}

/-- Steps in a row succeed if each of them does. -/
theorem bind_eq_ok_iff {x : Except ε α} {f : α → Except ε β} {b : β} :
    x >>= f = .ok b ↔ ∃ a, x = .ok a ∧ f a = .ok b := by
  cases x with
  | error e => exact iff_of_false nofun nofun
  | ok a =>
      constructor
      · intro h
        exact ⟨a, rfl, h⟩
      · rintro ⟨a', ha, h⟩
        rw [Except.ok.inj ha]
        exact h

theorem mapError_eq_ok_iff {x : Except ε α} {f : ε → ε'} {a : α} :
    x.mapError f = .ok a ↔ x = .ok a := by
  cases x with
  | error e => exact iff_of_false nofun nofun
  | ok b =>
      show Except.ok b = Except.ok a ↔ _
      rw [Except.ok.injEq, Except.ok.injEq]

/-- Steps in a row fail at the first that fails. -/
theorem bind_eq_error_iff {x : Except ε α} {f : α → Except ε β} {e : ε} :
    x >>= f = .error e ↔ x = .error e ∨ ∃ a, x = .ok a ∧ f a = .error e := by
  cases x with
  | error e' =>
      show Except.error e' = .error e ↔ _
      simp
  | ok a =>
      show f a = .error e ↔ _
      simp

theorem mapError_eq_error_iff {x : Except ε α} {f : ε → ε'} {e : ε'} :
    x.mapError f = .error e ↔ ∃ e', x = .error e' ∧ f e' = e := by
  cases x with
  | error e' =>
      show Except.error (f e') = .error e ↔ _
      simp
  | ok a => exact iff_of_false nofun fun ⟨_, h, _⟩ => nomatch h

theorem bind_of_eq_ok {x : Except ε α} {a : α} (h : x = .ok a) (f : α → Except ε β) :
    x >>= f = f a := by
  rw [h]
  rfl

theorem bind_of_eq_error {x : Except ε α} {e : ε} (h : x = .error e) (f : α → Except ε β) :
    x >>= f = .error e := by
  rw [h]
  rfl

theorem eq_ok_of_toOption {x : Except ε α} {a : α} (h : x.toOption = some a) : x = .ok a := by
  cases x with
  | error e => cases h
  | ok b => rw [Option.some.inj h]

end

namespace Config

theorem validate_standard : standard.validate = .ok () := rfl

theorem client_standard (t : FileTree) (network : Local.Network) :
    Local.client t network standard.userAgent
      = .ok (Local.fetch t (network standard.userAgent)) :=
  if_pos (by decide)

theorem validate_of_loadFile {t : FileTree} {current : List String} {path : String}
    {loaded : Loaded} (h : loadFile t current path = .ok loaded) :
    loaded.config.validate = .ok () := by
  unfold loadFile at h
  simp only [bind_eq_ok_iff, mapError_eq_ok_iff] at h
  obtain ⟨text, -, config, -, _, hvalid, h⟩ := h
  rw [← Except.ok.inj h]
  exact hvalid

/-- Settings that are loaded keep the rules. -/
theorem validate_of_load {t : FileTree} {current : List String} {dir : String}
    {loaded : Loaded} (h : load t current dir = .ok loaded) :
    loaded.config.validate = .ok () := by
  unfold load at h
  split at h
  · exact validate_of_loadFile h
  · rw [← Except.ok.inj h]
    exact validate_standard

theorem kinds_ne_nil_of_validate {c : Config} (h : c.validate = .ok ()) : c.kinds ≠ [] := by
  intro hkinds
  unfold validate at h
  rw [hkinds] at h
  cases h

theorem kinds_ne_nil_of_load {t : FileTree} {current : List String} {dir : String}
    {loaded : Loaded} (h : load t current dir = .ok loaded) : loaded.config.kinds ≠ [] :=
  kinds_ne_nil_of_validate (validate_of_load h)

/-- A scan is asked for the kinds of the settings. -/
theorem kinds_of_options {c : Config} {o : Options} (h : c.options = .ok o) :
    o.kinds = c.kinds := by
  obtain ⟨ignore, -, h⟩ := bind_eq_ok_iff.1 h
  rw [← Except.ok.inj h]

end Config

end Marginalia
