import Mathlib.Data.List.Nodup

/-!
# Reading step by step

Steps that may fail succeed together exactly if each of them does (`bind_eq_ok_iff`,
`forM_eq_ok_iff`), and a look-up finds an entry exactly if it is there, as no two entries have the
same key (`lookup_eq_some_iff_mem`).
-/

namespace ReleaseListing

variable {ε α β : Type}

/-- A step after another succeeds exactly if both do. -/
theorem bind_eq_ok_iff {x : Except ε α} {f : α → Except ε β} {b : β} :
    x >>= f = .ok b ↔ ∃ a, x = .ok a ∧ f a = .ok b := by
  cases x with
  | error e =>
    constructor
    · intro h
      cases h
    · rintro ⟨a, h, -⟩
      cases h
  | ok a =>
    constructor
    · exact fun h => ⟨a, rfl, h⟩
    · rintro ⟨c, hc, h⟩
      cases hc
      exact h

/-- A step that succeeds after another has gone through both. -/
theorem exists_of_bind_eq_ok {x : Except ε α} {f : α → Except ε β} {b : β}
    (h : x >>= f = .ok b) : ∃ a, x = .ok a ∧ f a = .ok b := bind_eq_ok_iff.1 h

theorem forM_eq_ok_iff {as : List α} {f : α → Except ε Unit} :
    as.forM f = .ok () ↔ ∀ a ∈ as, f a = .ok () := by
  induction as with
  | nil => exact ⟨fun _ a ha => (List.not_mem_nil ha).elim, fun _ => rfl⟩
  | cons a as ih =>
    have hcons : (a :: as).forM f = f a >>= fun _ => as.forM f := rfl
    rw [hcons, bind_eq_ok_iff, List.forall_mem_cons, ← ih]
    exact ⟨fun ⟨_, ha, has⟩ => ⟨ha, has⟩, fun ⟨ha, has⟩ => ⟨(), ha, has⟩⟩

theorem lookup_eq_some_iff_mem {entries : List (String × β)} (h : (entries.map (·.1)).Nodup)
    {name : String} {b : β} : entries.lookup name = some b ↔ (name, b) ∈ entries := by
  rw [List.lookup_eq_some_iff]
  constructor
  · rintro ⟨before, behind, rfl, -⟩
    simp
  · intro hm
    obtain ⟨before, behind, rfl⟩ := List.append_of_mem hm
    refine ⟨before, behind, rfl, fun e he => ?_⟩
    rw [bne_iff_ne]
    rintro rfl
    rw [List.map_append, List.map_cons, List.nodup_append] at h
    exact h.2.2 _ (List.mem_map_of_mem he) _ List.mem_cons_self rfl

end ReleaseListing
