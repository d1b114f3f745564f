import Mathlib.Data.List.Perm.Basic
import QuestFlow.Proofs.Graph.Rows

/-!
# Gathering in another order

A gathered table shows the order in which its values arrived: groups stand in the order of first
mention, and so do the members of each.  What does not depend on that order is which groups there
are, each with which members.

1. **Groups** — a gathered table lists its keys, each with what is found under it
   (`collect_eq_map_keys`).
2. **Another order** — the keys are the same up to their order (`keys_collect_perm`), and so are the
   members of each group (`get_collect_perm`).
3. **Counting** — so there are as many groups of any sort that does not mind the order of the
   members (`countP_collect_perm`).
-/

namespace QuestFlow

/-- Dropping repeats leaves nothing twice. -/
theorem nodup_eraseDups {α : Type} [DecidableEq α] : ∀ xs : List α, xs.eraseDups.Nodup
  | [] => List.nodup_nil
  | x :: xs => by
    rw [List.eraseDups_cons, List.nodup_cons]
    refine ⟨fun hmem => ?_, nodup_eraseDups _⟩
    have hkept := (List.mem_filter.1 (List.mem_eraseDups.1 hmem)).2
    simp at hkept
termination_by xs => xs.length
decreasing_by
  have hle := List.length_filter_le (fun a => !a == x) xs
  simp only [List.length_cons]
  omega

/-- Without repeats, a reordered list is the same list in some order. -/
theorem eraseDups_perm {α : Type} [DecidableEq α] {xs' xs : List α} (hperm : xs'.Perm xs) :
    xs'.eraseDups.Perm xs.eraseDups := by
  rw [List.perm_ext_iff_of_nodup (nodup_eraseDups xs') (nodup_eraseDups xs)]
  intro x
  rw [List.mem_eraseDups, List.mem_eraseDups, hperm.mem_iff]

namespace Groups

variable {κ α : Type} [DecidableEq κ] {arrivals arrivals' : List (κ × List α)}

/-- A gathered table is the list of its keys, each with its group. -/
theorem collect_eq_map_keys (arrivals : List (κ × List α)) :
    collect arrivals =
      (keys (collect arrivals)).map fun key => (key, get (collect arrivals) key) := by
  rw [keys, List.map_map]
  refine (List.map_id _).symm.trans (List.map_congr_left fun group hgroup => ?_)
  obtain ⟨key, values⟩ := group
  have hfound := get_eq_of_mem (nodup_keys_collect arrivals) hgroup
  simp [hfound]

/-- The groups are the same, whatever the order of the arrivals. -/
theorem keys_collect_perm (hperm : arrivals'.Perm arrivals) :
    (keys (collect arrivals')).Perm (keys (collect arrivals)) := by
  rw [List.perm_ext_iff_of_nodup (nodup_keys_collect arrivals') (nodup_keys_collect arrivals)]
  intro key
  rw [mem_keys_collect, mem_keys_collect, (hperm.map _).mem_iff]

/-- A group has the same members, each as often. -/
theorem get_collect_perm (hperm : arrivals'.Perm arrivals) (key : κ) :
    (get (collect arrivals') key).Perm (get (collect arrivals) key) := by
  rw [get_collect, get_collect]
  exact hperm.flatMap_right _

/-- There are as many groups of a sort, if the sort does not mind the order of the members. -/
theorem countP_collect_perm {sort : κ × List α → Bool} (hperm : arrivals'.Perm arrivals)
    (hsort : ∀ key values' values, List.Perm values' values →
      sort (key, values') = sort (key, values)) :
    (collect arrivals').countP sort = (collect arrivals).countP sort := by
  rw [collect_eq_map_keys arrivals', collect_eq_map_keys arrivals, List.countP_map,
    List.countP_map, (keys_collect_perm hperm).countP_eq]
  refine List.countP_congr fun key _ => ?_
  rw [Function.comp_apply, Function.comp_apply, hsort key _ _ (get_collect_perm hperm key)]

end Groups
end QuestFlow
