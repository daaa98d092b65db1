import Descent.Proofs.Json.Derivation
import Mathlib.Data.Finset.Card
import Mathlib.Data.List.Induction

/-!
Histories of insertions. An insertion puts a new key at the end or hands the entry back, so that
the members behind a history are the first insertions of their keys, in the order of these. Each
way to look at the members searches the entries by itself; all of them agree with the history,
since no key comes twice (`nodup_keys_ofHistory`) and one insertion more changes look-ups as it
changes the history (`get?_ofHistory`).
-/
namespace Descent.Json.Members

variable {α : Type} {m : Members α} {key : String}

/-- What an insertion leaves, whether it was taken or handed back. -/
def afterInsert (m : Members α) (entry : String × α) : Members α :=
  match m.insert entry.1 entry.2 with
  | .ok members => members
  | .error _ => m

/-- The members behind a history of insertions, beginning with none. -/
def ofHistory (history : List (String × α)) : Members α := history.foldl afterInsert empty

theorem insert_of_mem (h : key ∈ m.keys) (value : α) :
    m.insert key value = .error (key, value) := by
  unfold insert
  rw [if_pos ((m.contains_iff key).mpr h)]

theorem afterInsert_of_mem (h : key ∈ m.keys) (value : α) : m.afterInsert (key, value) = m := by
  unfold afterInsert
  rw [insert_of_mem h value]

theorem afterInsert_of_not_mem (h : key ∉ m.keys) (value : α) :
    m.afterInsert (key, value) = ⟨m.entries ++ [(key, value)]⟩ := by
  unfold afterInsert
  rw [insert_of_not_mem h value]

theorem ofHistory_snoc (history : List (String × α)) (entry : String × α) :
    ofHistory (history ++ [entry]) = (ofHistory history).afterInsert entry :=
  List.foldl_append

/-- Whether a key is there and what it stands for are found by searches of the same kind. -/
theorem contains_eq_isSome (m : Members α) (key : String) :
    m.contains key = (m.get? key).isSome := by
  unfold contains get?
  rw [Option.isSome_map, List.isSome_find?]

theorem get?_eq_none_iff (m : Members α) (key : String) : m.get? key = none ↔ key ∉ m.keys := by
  rw [← contains_eq_false_iff, contains_eq_isSome, Option.isSome_eq_false_iff,
    Option.isNone_iff_eq_none]

theorem get?_of_mem (hm : m.keys.Nodup) {value : α} (h : (key, value) ∈ m.entries) :
    m.get? key = some value := by
  obtain ⟨front, behind, hentries⟩ := List.append_of_mem h
  have hfront : front.find? (fun entry => entry.1 == key) = none := by
    have hnot := not_mem_of_nodup (by rw [← hentries]; exact hm)
    rw [List.find?_eq_none]
    intro entry hentry hkey
    exact hnot (List.mem_map.mpr ⟨entry, hentry, beq_iff_eq.mp hkey⟩)
  unfold get?
  rw [hentries, List.find?_append, hfront, Option.none_or, List.find?_cons_of_pos (by simp)]
  rfl

theorem lookup_singleton (key : String) (value : α) (other : String) :
    [(key, value)].lookup other = if key = other then some value else none := by
  rw [List.lookup_cons]
  by_cases h : key = other
  · simp [h]
  · rw [beq_eq_false_iff_ne.mpr (Ne.symm h), if_neg h]
    rfl

theorem get?_snoc (m : Members α) (key : String) (value : α) (other : String) :
    (⟨m.entries ++ [(key, value)]⟩ : Members α).get? other =
      (m.get? other).or (if key = other then some value else none) := by
  unfold get?
  rw [List.find?_append, Option.map_or]
  congr 1
  by_cases h : key = other <;> simp [h]

theorem keys_snoc (m : Members α) (key : String) (value : α) :
    (⟨m.entries ++ [(key, value)]⟩ : Members α).keys = m.keys ++ [key] := List.map_append

theorem keys_ofHistory (history : List (String × α)) :
    (ofHistory history).keys = (history.map Prod.fst).eraseDups := by
  induction history using List.reverseRecOn with
  | nil => rfl
  | append_singleton history entry ih =>
    obtain ⟨key, value⟩ := entry
    have hmem : key ∈ (ofHistory history).keys ↔ key ∈ history.map Prod.fst := by
      rw [ih, List.mem_eraseDups]
    rw [ofHistory_snoc, List.map_append, List.eraseDups_append, ← ih]
    by_cases h : key ∈ history.map Prod.fst
    · rw [afterInsert_of_mem (hmem.mpr h)]
      simp [List.removeAll, h]
    · rw [afterInsert_of_not_mem (fun hkey => h (hmem.mp hkey)), keys_snoc]
      simp [List.removeAll, h, List.eraseDups_cons]

theorem mem_keys_ofHistory (history : List (String × α)) (key : String) :
    key ∈ (ofHistory history).keys ↔ key ∈ history.map Prod.fst := by
  rw [keys_ofHistory, List.mem_eraseDups]

theorem nodup_keys_ofHistory (history : List (String × α)) : (ofHistory history).keys.Nodup := by
  induction history using List.reverseRecOn with
  | nil => exact List.Pairwise.nil
  | append_singleton history entry ih =>
    obtain ⟨key, value⟩ := entry
    rw [ofHistory_snoc]
    by_cases h : key ∈ (ofHistory history).keys
    · rw [afterInsert_of_mem h]
      exact ih
    · rw [afterInsert_of_not_mem h]
      exact nodup_snoc ih h value

/-- What a key stands for is what it was first inserted with. -/
theorem get?_ofHistory (history : List (String × α)) (key : String) :
    (ofHistory history).get? key = history.lookup key := by
  induction history using List.reverseRecOn with
  | nil => rfl
  | append_singleton history entry ih =>
    obtain ⟨new, value⟩ := entry
    rw [ofHistory_snoc, List.lookup_append, ← ih, lookup_singleton]
    by_cases hnew : new ∈ (ofHistory history).keys
    · rw [afterInsert_of_mem hnew]
      by_cases hkey : new = key
      · -- the first insertion of the key was found already
        subst hkey
        obtain ⟨first, hfirst⟩ := Option.ne_none_iff_exists'.mp
          (fun hnone => (get?_eq_none_iff _ _).mp hnone hnew)
        rw [hfirst, Option.some_or]
      · rw [if_neg hkey, Option.or_none]
    · rw [afterInsert_of_not_mem hnew, get?_snoc]

theorem toList_ofHistory (history : List (String × α)) :
    (ofHistory history).toList.map (fun entry => (entry.1, some entry.2)) =
      (ofHistory history).keys.map fun key => (key, history.lookup key) := by
  have hentries : ∀ entry ∈ (ofHistory history).entries,
      (entry.1, some entry.2) = (entry.1, history.lookup entry.1) := by
    intro entry hentry
    rw [← get?_ofHistory, get?_of_mem (nodup_keys_ofHistory history) hentry]
  unfold toList keys
  rw [List.map_map]
  exact List.map_congr_left hentries

theorem size_ofHistory (history : List (String × α)) :
    (ofHistory history).size = (history.map Prod.fst).toFinset.card := by
  have hkeys : (ofHistory history).keys.toFinset = (history.map Prod.fst).toFinset := by
    ext key
    rw [List.mem_toFinset, List.mem_toFinset, mem_keys_ofHistory]
  calc
    (ofHistory history).size = (ofHistory history).keys.length := by
      rw [keys, List.length_map, size]
    _ = (ofHistory history).keys.toFinset.card :=
      (List.toFinset_card_of_nodup (nodup_keys_ofHistory history)).symm
    _ = (history.map Prod.fst).toFinset.card := by rw [hkeys]

/-- The members behind a history of insertions are the first of their keys, however they are
looked at, and one insertion more is taken exactly if its key is new. -/
theorem first_insertions_stay (history : List (String × α)) :
    -- the keys, in order
    (ofHistory history).keys = (history.map Prod.fst).eraseDups ∧
    (ofHistory history).keys.Nodup ∧
    -- the entries, in order
    (ofHistory history).toList.map (fun entry => (entry.1, some entry.2)) =
      (ofHistory history).keys.map (fun key => (key, history.lookup key)) ∧
    -- look-ups
    (∀ key, (ofHistory history).get? key = history.lookup key ∧
      ((ofHistory history).get? key = none ↔ key ∉ history.map Prod.fst) ∧
      (ofHistory history).contains key = ((ofHistory history).get? key).isSome) ∧
    -- how many there are
    (ofHistory history).size = (history.map Prod.fst).toFinset.card ∧
    ((ofHistory history).isEmpty = true ↔ history = []) ∧
    -- an insertion that is handed back, and one that is taken
    (∀ key value, key ∈ history.map Prod.fst →
      (ofHistory history).insert key value = .error (key, value) ∧
        ofHistory (history ++ [(key, value)]) = ofHistory history) ∧
    ∀ key value, key ∉ history.map Prod.fst →
      (ofHistory history).insert key value = .ok (ofHistory (history ++ [(key, value)])) := by
  refine ⟨keys_ofHistory history, nodup_keys_ofHistory history, toList_ofHistory history, ?_,
    size_ofHistory history, ?_, ?_, ?_⟩
  · intro key
    refine ⟨get?_ofHistory history key, ?_, contains_eq_isSome _ key⟩
    rw [get?_eq_none_iff, mem_keys_ofHistory]
  · have hempty : (ofHistory history).isEmpty = true ↔ (ofHistory history).size = 0 := by
      unfold isEmpty size
      rw [List.isEmpty_iff, List.length_eq_zero_iff]
    rw [hempty, size_ofHistory, Finset.card_eq_zero, List.toFinset_eq_empty_iff,
      List.map_eq_nil_iff]
  · intro key value hkey
    have hmem := (mem_keys_ofHistory history key).mpr hkey
    exact ⟨insert_of_mem hmem value, by rw [ofHistory_snoc, afterInsert_of_mem hmem]⟩
  · intro key value hkey
    have hnew : key ∉ (ofHistory history).keys :=
      fun h => hkey ((mem_keys_ofHistory history key).mp h)
    rw [insert_of_not_mem hnew, ofHistory_snoc, afterInsert_of_not_mem hnew]

/-- A key that is inserted again with another value. -/
theorem first_insertions_stay_of_repeated :
    let history : List (String × Value) := [("z", .null), ("é", .bool true), ("z", .bool false)]
    let m := ofHistory history
    m.keys = ["z", "é"] ∧ m.size = 2 ∧ "é" ∈ history.map Prod.fst ∧
      m.insert "é" .null = .error ("é", .null) ∧ ofHistory (history ++ [("é", .null)]) = m := by
  intro history m
  obtain ⟨hkeys, -, -, -, hsize, -, hback, -⟩ := first_insertions_stay history
  have hmem : "é" ∈ history.map Prod.fst := by decide
  obtain ⟨hinsert, hsame⟩ := hback "é" .null hmem
  refine ⟨hkeys.trans (by decide), hsize.trans (by decide), hmem, hinsert, hsame⟩

end Descent.Json.Members
