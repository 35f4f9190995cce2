import Mathlib.Data.List.Forall2

/-!
# Results of chains

A chain of computations that may fail has a result exactly when every step has
one.  These laws take such a chain apart one step at a time, so no later proof
looks into `Except`.  A list that is mapped is a chain with a step for each item, and
it fails as the first item that fails does.
-/

namespace RelQuery

variable {ε α β : Type}

/-- A chain of two steps has a result when both steps have one. -/
theorem bind_eq_ok_iff {x : Except ε α} {f : α → Except ε β} {b : β} :
    x >>= f = .ok b ↔ ∃ a, x = .ok a ∧ f a = .ok b := by
  cases x with
  | error e => simp [bind, Except.bind]
  | ok a => simp [bind, Except.bind]

/-- A chain of two steps fails when the first step fails, or the second after it. -/
theorem bind_eq_error_iff {x : Except ε α} {f : α → Except ε β} {e : ε} :
    x >>= f = .error e ↔ x = .error e ∨ ∃ a, x = .ok a ∧ f a = .error e := by
  cases x with
  | error e => simp [bind, Except.bind]
  | ok a => simp [bind, Except.bind]

/-- The second step of a chain matters only after results of the first. -/
theorem bind_congr_of_ok {x : Except ε α} {f g : α → Except ε β}
    (h : ∀ a, x = .ok a → f a = g a) : x >>= f = x >>= g := by
  cases x with
  | error e => rfl
  | ok a => exact h a rfl

/-- A mapped result is the image of a result. -/
theorem map_eq_ok_iff {x : Except ε α} {f : α → β} {b : β} :
    x.map f = .ok b ↔ ∃ a, x = .ok a ∧ f a = b := by
  cases x with
  | error e => simp [Except.map]
  | ok a => simp [Except.map]

/-- A failure that is reworded stays a failure, and a result stays as it is. -/
theorem mapError_eq_ok_iff {δ : Type} {x : Except ε α} {f : ε → δ} {a : α} :
    x.mapError f = .ok a ↔ x = .ok a := by
  cases x with
  | error e => exact ⟨nofun, nofun⟩
  | ok b =>
    constructor
    · intro h
      cases h
      rfl
    · intro h
      cases h
      rfl

/-- A choice that fails without a value has a result when there is a value. -/
theorem elim_eq_ok_iff {x : Option α} {e : ε} {a : α} :
    x.elim (Except.error e) Except.ok = .ok a ↔ x = some a := by
  cases x with
  | none => simp
  | some b => simp

/-- A list is mapped when every item is. -/
theorem mapM_eq_ok_iff {f : α → Except ε β} {xs : List α} {ys : List β} :
    xs.mapM f = .ok ys ↔ List.Forall₂ (fun x y => f x = .ok y) xs ys := by
  induction xs generalizing ys with
  | nil =>
    rw [List.mapM_nil, List.forall₂_nil_left_iff]
    exact ⟨fun h => (Except.ok.inj h).symm, fun h => congrArg Except.ok h.symm⟩
  | cons x xs ih =>
    rw [List.mapM_cons, List.forall₂_cons_left_iff, bind_eq_ok_iff]
    constructor
    · rintro ⟨y, hy, h⟩
      obtain ⟨rest, hrest, h⟩ := bind_eq_ok_iff.mp h
      exact ⟨y, rest, hy, ih.mp hrest, (Except.ok.inj h).symm⟩
    · rintro ⟨y, rest, hy, hrest, rfl⟩
      exact ⟨y, hy, bind_eq_ok_iff.mpr ⟨rest, ih.mpr hrest, rfl⟩⟩

/-- Results that are mapped to themselves are the results of their own images. -/
theorem mapM_map_eq_ok {f : α → Except ε β} {g : β → α}
    (hg : ∀ x y, f x = .ok y → f (g y) = .ok y) {xs : List α} {ys : List β}
    (h : xs.mapM f = .ok ys) : (ys.map g).mapM f = .ok ys := by
  have hall : List.Forall₂ (fun x y => f x = .ok y) xs ys := mapM_eq_ok_iff.mp h
  clear h
  refine mapM_eq_ok_iff.mpr ?_
  induction hall with
  | nil => exact .nil
  | cons hxy _ ih => exact .cons (hg _ _ hxy) ih

/-- The failure of a list is that of the first item that fails. -/
theorem mapM_eq_error_iff {f : α → Except ε β} {fault? : α → Option ε}
    (h : ∀ x e, f x = .error e ↔ fault? x = some e) {xs : List α} {e : ε} :
    xs.mapM f = .error e ↔ xs.findSome? fault? = some e := by
  induction xs with
  | nil => exact ⟨nofun, nofun⟩
  | cons x xs ih =>
    rw [List.mapM_cons, List.findSome?_cons]
    cases hx : f x with
    | error e' =>
      rw [(h x e').mp hx]
      exact ⟨fun h => congrArg some (Except.error.inj h), fun h => congrArg _ (Option.some.inj h)⟩
    | ok y =>
      have hnone : fault? x = none := by
        cases hfault : fault? x with
        | none => rfl
        | some e' => cases hx.symm.trans ((h x e').mpr hfault)
      rw [hnone]
      show xs.mapM f >>= (fun ys => .ok (y :: ys)) = .error e ↔ xs.findSome? fault? = some e
      rw [← ih, bind_eq_error_iff]
      exact or_iff_left fun ⟨_, _, h⟩ => nomatch h

/-- A list is mapped when no item fails. -/
theorem exists_mapM_eq_ok_iff {f : α → Except ε β} {fault? : α → Option ε}
    (h : ∀ x e, f x = .error e ↔ fault? x = some e) {xs : List α} :
    (∃ ys, xs.mapM f = .ok ys) ↔ ∀ x ∈ xs, fault? x = none := by
  rw [← List.findSome?_eq_none_iff]
  cases hxs : xs.mapM f with
  | error e =>
    rw [(mapM_eq_error_iff h).mp hxs]
    exact iff_of_false nofun (Option.some_ne_none e)
  | ok ys =>
    refine iff_of_true ⟨ys, rfl⟩ ?_
    cases hfault : xs.findSome? fault? with
    | none => rfl
    | some e => cases hxs.symm.trans ((mapM_eq_error_iff h).mpr hfault)

end RelQuery
