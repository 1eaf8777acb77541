import ClientGen.Entries
import Mathlib.Data.List.Nodup

/-!
# Clashes of names

Names are given one after another, each with an owner, next to some that are taken from the start.
The first name that is taken already is a clash.  What stands in front of it has no clash, so its
name has one owner there.

## Main definitions

* `firstTaken?` — the first claim whose name is taken, and the owner of that name.

## Main results

* `firstTaken?_eq_none_iff` — there is no clash exactly if all names are different.
* `exists_of_firstTaken?` — which claim clashes, and with what.
-/

namespace ClientGen.Entries

variable {κ α : Type} [BEq κ]

/-- The first claim whose key is taken, and the owner of that key. -/
def firstTaken? (taken : List (κ × α)) : List (κ × α) → Option ((κ × α) × α)
  | [] => none
  | claim :: rest =>
    match taken.lookup claim.1 with
    | some owner => some (claim, owner)
    | none => firstTaken? (taken ++ [claim]) rest

variable [LawfulBEq κ]

/-- A free key keeps keys distinct. -/
theorem nodup_keys_concat {taken : List (κ × α)} {claim : κ × α} (h : (keys taken).Nodup)
    (hfree : taken.lookup claim.1 = none) : (keys (taken ++ [claim])).Nodup := by
  rw [keys, List.map_append, List.map_singleton, ← List.concat_eq_append]
  exact h.concat (lookup_eq_none_iff_notMem.1 hfree)

/-- **Which claim clashes**: no key in front of it is taken twice, and one of them is its own. -/
theorem exists_of_firstTaken? {taken claims : List (κ × α)} {claim : κ × α} {owner : α}
    (htaken : (keys taken).Nodup) (h : firstTaken? taken claims = some (claim, owner)) :
    ∃ before after, claims = before ++ claim :: after ∧ (keys (taken ++ before)).Nodup ∧
      (claim.1, owner) ∈ taken ++ before := by
  -- On the claims, with what is taken growing by those that do not clash.
  induction claims generalizing taken with
  | nil => simp [firstTaken?] at h
  | cons first rest ih =>
    rw [firstTaken?] at h
    split at h
    · rename_i hlookup
      obtain ⟨rfl, rfl⟩ := Prod.mk.inj (Option.some.inj h)
      refine ⟨[], rest, rfl, by simpa using htaken, ?_⟩
      simpa using mem_of_lookup_eq_some hlookup
    · rename_i hfree
      obtain ⟨before, after, rfl, hnodup, howner⟩ := ih (nodup_keys_concat htaken hfree) h
      refine ⟨first :: before, after, rfl, ?_, ?_⟩
      · simpa using hnodup
      · simpa using howner

/-- **There is no clash** exactly if all keys are different. -/
theorem firstTaken?_eq_none_iff {taken : List (κ × α)} (htaken : (keys taken).Nodup)
    (claims : List (κ × α)) :
    firstTaken? taken claims = none ↔ (keys (taken ++ claims)).Nodup := by
  induction claims generalizing taken with
  | nil => simpa [firstTaken?] using htaken
  | cons claim rest ih =>
    rw [firstTaken?]
    split
    · rename_i owner hlookup
      have hmem : claim.1 ∈ keys taken :=
        List.mem_map.2 ⟨_, mem_of_lookup_eq_some hlookup, rfl⟩
      refine iff_of_false (by simp) fun hnodup => ?_
      rw [keys, List.map_append, List.map_cons] at hnodup
      exact List.disjoint_of_nodup_append hnodup hmem List.mem_cons_self
    · rename_i hfree
      rw [List.append_cons taken claim rest]
      exact ih (nodup_keys_concat htaken hfree)

end ClientGen.Entries
