import Mathlib.Data.Finset.Card
import WebDocs.Proofs.Dump.Recorded
import WebDocs.Proofs.Json.Members

namespace WebDocs

/-- The key an annotation is recorded under; there is none without a position. -/
def Annot.key? (entry : Annot) : Option Text :=
  match entry.position with
  | .null => none
  | position => some (positionKey position)

/-- The keys of annotations, in order. -/
def keysOf (annotations : List Annot) : List Text := annotations.filterMap Annot.key?

/-- The pairs that are written for annotations. -/
def written (annotations : List Annot) : List (Text × Val) :=
  annotations.filterMap fun entry => entry.key?.map (·, entry.value)

/-- The annotation is the last one with the key. -/
def LastWith (annotations : List Annot) (key : Text) (entry : Annot) : Prop :=
  entry.key? = some key ∧ ∃ before after, annotations = before ++ entry :: after ∧
    ∀ later ∈ after, later.key? ≠ some key

theorem keys_written (annotations : List Annot) :
    Members.keys (written annotations) = keysOf annotations := by
  rw [written, Members.keys, List.map_filterMap]
  refine List.filterMap_congr fun entry _ => ?_
  cases entry.key? <;> rfl

theorem written_append (annotations newer : List Annot) :
    written (annotations ++ newer) = written annotations ++ written newer := List.filterMap_append

theorem written_cons_of_key {entry : Annot} {key : Text} (h : entry.key? = some key)
    (rest : List Annot) : written (entry :: rest) = (key, entry.value) :: written rest := by
  simp [written, h]

theorem written_cons_of_none {entry : Annot} (h : entry.key? = none) (rest : List Annot) :
    written (entry :: rest) = written rest := by
  simp [written, h]

namespace PositionIndex

theorem add_entries (index : PositionIndex) (entry : Annot) :
    (index.add entry).entries =
      entry.key?.elim index.entries fun key => index.entries.put key entry.value := by
  obtain ⟨position, _, _⟩ := entry
  cases position <;> rfl

theorem entries_ofAnnotations (annotations : List Annot) :
    (ofAnnotations annotations).entries = Members.ofPairs (written annotations) := by
  induction annotations using List.reverseRecOn with
  | nil => rfl
  | append_singleton rest entry ih =>
    rw [ofAnnotations_append, add_entries, written_append, ih]
    cases hk : entry.key? with
    | none =>
      rw [written_cons_of_none hk]
      exact congrArg Members.ofPairs (List.append_nil _).symm
    | some key =>
      rw [written_cons_of_key hk]
      exact (Members.ofPairs_append_singleton (written rest) (key, entry.value)).symm

theorem get?_ofAnnotations (annotations : List Annot) (key : Text) :
    (ofAnnotations annotations).get? key = (Members.ofPairs (written annotations)).get? key := by
  rw [get?, entries_ofAnnotations]

theorem keys_ofAnnotations (annotations : List Annot) :
    (ofAnnotations annotations).keys = (keysOf annotations).eraseDups := by
  rw [keys, entries_ofAnnotations, Members.keys_ofPairs, keys_written]

theorem get?_eq_none_iff {annotations : List Annot} {key : Text} :
    (ofAnnotations annotations).get? key = none ↔ key ∉ keysOf annotations := by
  rw [get?, Members.get?_eq_none_iff, ← keys, keys_ofAnnotations, List.mem_eraseDups]

theorem not_mem_keysOf {annotations : List Annot} {key : Text} :
    key ∉ keysOf annotations ↔ ∀ entry ∈ annotations, entry.key? ≠ some key := by
  simp [keysOf]

theorem get?_eq_some_iff {annotations : List Annot} {key : Text} {value : Val} :
    (ofAnnotations annotations).get? key = some value ↔
      ∃ entry, LastWith annotations key entry ∧ entry.value = value := by
  rw [get?_ofAnnotations, Members.get?_ofPairs_eq_some_iff]
  constructor
  · rintro ⟨before, after, hw, hk⟩
    obtain ⟨front, back, rfl, -, hback⟩ := List.filterMap_eq_append_iff.1 hw
    obtain ⟨skipped, entry, rest, rfl, -, hentry, hrest⟩ := List.filterMap_eq_cons_iff.1 hback
    obtain ⟨found, hfound, hpair⟩ := Option.map_eq_some_iff.1 hentry
    cases hpair
    refine ⟨entry, ⟨hfound, front ++ skipped, rest, (List.append_assoc ..).symm, ?_⟩, rfl⟩
    rwa [← not_mem_keysOf, ← keys_written, written, hrest]
  · rintro ⟨entry, ⟨hentry, before, after, rfl, hlater⟩, rfl⟩
    refine ⟨written before, written after, ?_, ?_⟩
    · rw [written_append, written_cons_of_key hentry]
    · rwa [keys_written, not_mem_keysOf]

/-- Later annotations come first. -/
theorem get?_append (annotations newer : List Annot) (key : Text) :
    (ofAnnotations (annotations ++ newer)).get? key =
      ((ofAnnotations newer).get? key).or ((ofAnnotations annotations).get? key) := by
  simp only [get?_ofAnnotations, written_append, Members.get?_ofPairs_append]

theorem get?_of_perm {annotations others : List Annot} (hp : annotations.Perm others)
    (hn : (keysOf annotations).Nodup) (key : Text) :
    (ofAnnotations annotations).get? key = (ofAnnotations others).get? key := by
  rw [← keys_written] at hn
  rw [get?_ofAnnotations, get?_ofAnnotations]
  exact Members.get?_ofPairs_of_perm hn (hp.filterMap _) key

/-- What is looked up depends on what is recorded under the keys. -/
theorem lookup_congr {index other : PositionIndex} (h : ∀ key, index.get? key = other.get? key)
    (position : Json) : index.lookup position = other.lookup position := by
  cases position with
  | null => rfl
  | _ => exact h _

/-- The index holds the map of the annotations. -/
structure Holds (index : PositionIndex) (annotations : List Annot) : Prop where
  keys : index.keys = (keysOf annotations).eraseDups
  nodup : index.keys.Nodup
  size : index.size = (keysOf annotations).toFinset.card
  found : ∀ key value, index.get? key = some value ↔
    ∃ entry, LastWith annotations key entry ∧ entry.value = value
  missing : ∀ key, index.get? key = none ↔ key ∉ keysOf annotations
  contains : ∀ key, index.contains key ↔ key ∈ keysOf annotations
  lookup : ∀ position ≠ .null, index.lookup position = index.get? (positionKey position)
  lookup_null : index.lookup .null = none

theorem holds_ofAnnotations (annotations : List Annot) :
    Holds (ofAnnotations annotations) annotations where
  keys := keys_ofAnnotations annotations
  nodup := by
    rw [PositionIndex.keys, entries_ofAnnotations]
    exact Members.nodup_keys_ofPairs _
  size := by
    have hn := Members.nodup_keys_ofPairs (written annotations)
    have hkeys := Members.keys_ofPairs (written annotations)
    rw [keys_written] at hkeys
    have hset : (keysOf annotations).toFinset =
        (Members.keys (Members.ofPairs (written annotations))).toFinset := by
      ext key
      rw [List.mem_toFinset, List.mem_toFinset, hkeys, List.mem_eraseDups]
    rw [hset, List.toFinset_card_of_nodup hn, Members.keys, List.length_map,
      PositionIndex.size, entries_ofAnnotations]
  found _ _ := get?_eq_some_iff
  missing _ := get?_eq_none_iff
  contains key := by
    rw [PositionIndex.contains, Option.isSome_iff_ne_none, ne_eq, get?_eq_none_iff, not_not]
  lookup _ h := lookup_of_ne_null h
  lookup_null := rfl

/-- The index of a list of annotations is the map of the list: the keys in the order in which they
first occur, each once and with the value of the last annotation with it. In the index of two lists
the second one counts first. Annotations without a common key can be put into another order. -/
theorem index_holds_last_writes (annotations : List Annot) :
    Holds (ofAnnotations annotations) annotations ∧
    (∀ newer,
      (∀ key, (ofAnnotations (annotations ++ newer)).get? key =
        ((ofAnnotations newer).get? key).or ((ofAnnotations annotations).get? key)) ∧
      ∀ position, (ofAnnotations (annotations ++ newer)).lookup position =
        ((ofAnnotations newer).lookup position).or ((ofAnnotations annotations).lookup position)) ∧
    ∀ others, annotations.Perm others → (keysOf annotations).Nodup →
      (∀ key, (ofAnnotations others).get? key = (ofAnnotations annotations).get? key) ∧
      ∀ position, (ofAnnotations others).lookup position =
        (ofAnnotations annotations).lookup position := by
  refine ⟨holds_ofAnnotations annotations, fun newer => ⟨get?_append annotations newer, ?_⟩,
    fun others hp hn => ?_⟩
  · intro position
    cases position with
    | null => rfl
    | _ => exact get?_append annotations newer _
  · have hget := fun key => (get?_of_perm hp hn key).symm
    exact ⟨hget, lookup_congr hget⟩

/-- Two annotations with different positions change places around one without a position. -/
theorem index_holds_last_writes_swapped :
    let entry (position : Json) (n : Int) : Annot := ⟨position, .unknown none .null, .int n⟩
    let annotations := [entry (.int 1) 1, entry .null 2, entry (.str "1") 3]
    annotations.Perm annotations.reverse ∧ (keysOf annotations).Nodup ∧
      (ofAnnotations annotations.reverse).lookup (.int 1) =
        (ofAnnotations annotations).lookup (.int 1) := by
  intro entry annotations
  have hp : annotations.Perm annotations.reverse := annotations.reverse_perm.symm
  have hn : (keysOf annotations).Nodup := by decide +kernel
  exact ⟨hp, hn, ((index_holds_last_writes annotations).2.2 _ hp hn).2 _⟩

end PositionIndex
end WebDocs
