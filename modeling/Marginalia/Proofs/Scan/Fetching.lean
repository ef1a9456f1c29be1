/-
Computations that fetch. The monad laws hold, and every combinator that
a scan is built from has one equation for the value and one for the URLs
fetched, so that the two can be followed apart: values nest, URLs are
put one after the other.
-/
import Marginalia.Fetch

namespace Marginalia.Fetching

variable {α β : Type}

-- ============================================================= steps

@[simp]
theorem value_pure (a : α) : (pure a : Fetching α).value = a := rfl

@[simp]
theorem fetched_pure (a : α) : (pure a : Fetching α).fetched = [] := rfl

@[simp]
theorem value_bind (x : Fetching α) (f : α → Fetching β) :
    (x >>= f).value = (f x.value).value := rfl

@[simp]
theorem fetched_bind (x : Fetching α) (f : α → Fetching β) :
    (x >>= f).fetched = x.fetched ++ (f x.value).fetched := rfl

@[simp]
theorem value_ask (fetch : Fetcher) (url : String) :
    (ask fetch url).value = fetch url := rfl

@[simp]
theorem fetched_ask (fetch : Fetcher) (url : String) :
    (ask fetch url).fetched = [url] := rfl

theorem ext_iff_parts {x y : Fetching α} :
    x = y ↔ x.value = y.value ∧ x.fetched = y.fetched := by
  cases x
  cases y
  rw [Fetching.mk.injEq]

instance : LawfulMonad Fetching := by
  refine LawfulMonad.mk' Fetching ?_ ?_ ?_
  · intro α x
    rw [ext_iff_parts]
    exact ⟨rfl, List.append_nil _⟩
  · intro α β a f
    rfl
  · intro α β γ x f g
    rw [ext_iff_parts]
    exact ⟨rfl, List.append_assoc _ _ _⟩

-- ============================================================= loops

@[simp]
theorem value_mapM (f : α → Fetching β) (l : List α) :
    (l.mapM f).value = l.map fun a => (f a).value := by
  induction l with
  | nil => rw [List.mapM_nil, value_pure, List.map_nil]
  | cons a l ih =>
      rw [List.mapM_cons, value_bind, value_bind, value_pure, ih, List.map_cons]

@[simp]
theorem fetched_mapM (f : α → Fetching β) (l : List α) :
    (l.mapM f).fetched = l.flatMap fun a => (f a).fetched := by
  induction l with
  | nil => rw [List.mapM_nil, fetched_pure, List.flatMap_nil]
  | cons a l ih =>
      rw [List.mapM_cons, fetched_bind, fetched_bind, fetched_pure, ih,
        List.append_nil, List.flatMap_cons]

end Marginalia.Fetching
