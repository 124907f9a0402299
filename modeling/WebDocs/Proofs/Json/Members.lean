import Mathlib.Data.List.Induction
import Mathlib.Data.List.Nodup
import WebDocs.Json.Basic

namespace WebDocs.Members

variable {α : Type}

theorem mem_of_get? {key : Text} {value : α} {members : Members α}
    (h : members.get? key = some value) : (key, value) ∈ members := by
  induction members with
  | nil => cases h
  | cons first rest ih =>
    unfold get? at h
    split at h
    next hk => cases h; exact hk ▸ List.mem_cons_self
    next => exact List.mem_cons_of_mem _ (ih h)

theorem mem_put {key : Text} {value : α} {members : Members α} {m : Text × α}
    (h : m ∈ members.put key value) : m = (key, value) ∨ m ∈ members := by
  induction members with
  | nil => exact .inl (List.mem_singleton.1 h)
  | cons first rest ih =>
    unfold put at h
    split at h
    next hk =>
      rcases List.mem_cons.1 h with rfl | h
      · exact .inl (by rw [hk])
      · exact .inr (List.mem_cons_of_mem _ h)
    next hk =>
      rcases List.mem_cons.1 h with rfl | h
      · exact .inr List.mem_cons_self
      · exact (ih h).imp_right (List.mem_cons_of_mem _)

theorem mem_iff_get? {members : Members α} (hn : members.keys.Nodup) {key : Text} {value : α} :
    (key, value) ∈ members ↔ members.get? key = some value := by
  induction members with
  | nil => exact ⟨(nomatch ·), (nomatch ·)⟩
  | cons m rest ih =>
    obtain ⟨k, v⟩ := m
    obtain ⟨hk, hn⟩ := List.nodup_cons.1 hn
    unfold get?
    split
    next he =>
      subst he
      constructor
      · intro h
        rcases List.mem_cons.1 h with h | h
        · cases h
          rfl
        · exact absurd (List.mem_map_of_mem h) hk
      · intro h
        cases h
        exact List.mem_cons_self
    next hne =>
      rw [← ih hn, List.mem_cons]
      exact or_iff_right fun h => hne (Prod.mk.inj h).1.symm

theorem nodup_put {members : Members α} (hn : members.keys.Nodup) (key : Text) (value : α) :
    (members.put key value).keys.Nodup := by
  rw [keys_put]
  split
  next => exact hn
  next hk =>
    refine List.nodup_append.2 ⟨hn, List.nodup_singleton key, ?_⟩
    intro a ha b hb hab
    exact hk (List.mem_singleton.1 hb ▸ hab ▸ ha)

theorem put_of_not_mem {key : Text} {members : Members α} (h : key ∉ members.keys) (value : α) :
    members.put key value = members ++ [(key, value)] := by
  induction members with
  | nil => rfl
  | cons m rest ih =>
    obtain ⟨k, v⟩ := m
    have hk : k ≠ key := fun e => h (e ▸ List.mem_cons_self)
    have hr : key ∉ keys rest := fun e => h (List.mem_cons_of_mem _ e)
    rw [put, if_neg hk, ih hr, List.cons_append]

theorem get?_eq_none_iff {key : Text} {members : Members α} :
    members.get? key = none ↔ key ∉ members.keys := by
  induction members with
  | nil => exact ⟨fun _ => List.not_mem_nil, fun _ => rfl⟩
  | cons m rest ih =>
    obtain ⟨k, v⟩ := m
    rw [keys, List.map_cons, List.mem_cons, not_or]
    by_cases hk : k = key
    · rw [get?, if_pos hk]
      exact iff_of_false (Option.some_ne_none v) fun h => h.1 hk.symm
    · rw [get?, if_neg hk, ih]
      exact (and_iff_right (Ne.symm hk)).symm

theorem get?_append (key : Text) (members others : Members α) :
    get? key (members ++ others : Members α) = (members.get? key).or (others.get? key) := by
  induction members with
  | nil => rfl
  | cons m rest ih =>
    obtain ⟨k, v⟩ := m
    by_cases hk : k = key
    · rw [List.cons_append, get?, if_pos hk, get?, if_pos hk, Option.some_or]
    · rw [List.cons_append, get?, if_neg hk, get?, if_neg hk, ih]

/-- What is found is the first member with the key. -/
theorem get?_eq_some_iff {key : Text} {value : α} {members : Members α} :
    members.get? key = some value ↔ ∃ before after : Members α,
      members = before ++ (key, value) :: after ∧ key ∉ before.keys := by
  constructor
  · intro h
    induction members with
    | nil => cases h
    | cons m rest ih =>
      obtain ⟨k, v⟩ := m
      by_cases hk : k = key
      · rw [get?, if_pos hk] at h
        cases h
        exact ⟨[], rest, hk ▸ rfl, List.not_mem_nil⟩
      · rw [get?, if_neg hk] at h
        obtain ⟨before, after, rfl, hb⟩ := ih h
        refine ⟨(k, v) :: before, after, rfl, fun hm => ?_⟩
        rcases List.mem_cons.1 hm with he | hm
        · exact hk he.symm
        · exact hb hm
  · rintro ⟨before, after, rfl, hb⟩
    rw [get?_append, get?_eq_none_iff.2 hb, Option.none_or, get?, if_pos rfl]

theorem ofPairs_append_singleton (pairs : List (Text × α)) (pair : Text × α) :
    ofPairs (pairs ++ [pair]) = (ofPairs pairs).put pair.1 pair.2 := by
  rw [ofPairs, List.foldl_append]
  rfl

theorem mem_ofPairs {pairs : List (Text × α)} {m : Text × α} (h : m ∈ ofPairs pairs) :
    m ∈ pairs := by
  induction pairs using List.reverseRecOn with
  | nil => exact h
  | append_singleton rest pair ih =>
    rw [ofPairs_append_singleton] at h
    rcases mem_put h with rfl | h
    · exact List.mem_append_right _ List.mem_cons_self
    · exact List.mem_append_left _ (ih h)

/-- Pairs with distinct names are the members of their map. -/
theorem ofPairs_of_nodup {pairs : Members α} (h : pairs.keys.Nodup) : ofPairs pairs = pairs := by
  induction pairs using List.reverseRecOn with
  | nil => rfl
  | append_singleton rest pair ih =>
    rw [keys, List.map_append, List.nodup_append] at h
    obtain ⟨hrest, -, hne⟩ := h
    have hk : pair.1 ∉ keys rest := fun hm => hne pair.1 hm pair.1 List.mem_cons_self rfl
    rw [ofPairs_append_singleton, ih hrest, put_of_not_mem hk]

/-- The keys of the map stand in the order in which they first occur. -/
theorem keys_ofPairs (pairs : List (Text × α)) : (ofPairs pairs).keys = (keys pairs).eraseDups := by
  induction pairs using List.reverseRecOn with
  | nil => rfl
  | append_singleton rest pair ih =>
    have hkeys : keys (rest ++ [pair]) = keys rest ++ [pair.1] := List.map_append
    rw [ofPairs_append_singleton, keys_put, ih, hkeys, List.eraseDups_append]
    by_cases hk : pair.1 ∈ keys rest
    · rw [if_pos (List.mem_eraseDups.2 hk)]
      simp [List.removeAll, hk]
    · rw [if_neg fun h => hk (List.mem_eraseDups.1 h)]
      simp [List.removeAll, hk, List.eraseDups_cons]

theorem nodup_keys_ofPairs (pairs : List (Text × α)) : (ofPairs pairs).keys.Nodup := by
  induction pairs using List.reverseRecOn with
  | nil => exact List.nodup_nil
  | append_singleton rest pair ih =>
    rw [ofPairs_append_singleton]
    exact nodup_put ih pair.1 pair.2

/-- What is found in the map is found first from the end of the list. -/
theorem get?_ofPairs (key : Text) (pairs : List (Text × α)) :
    (ofPairs pairs).get? key = get? key pairs.reverse := by
  induction pairs using List.reverseRecOn with
  | nil => rfl
  | append_singleton rest pair ih =>
    rw [ofPairs_append_singleton, get?_put, List.reverse_concat, ih]
    by_cases hk : key = pair.1
    · rw [if_pos hk, get?, if_pos hk.symm]
    · rw [if_neg hk, get?, if_neg (Ne.symm hk)]

/-- What is found in the map is the value of the last pair with the key. -/
theorem get?_ofPairs_eq_some_iff {key : Text} {value : α} {pairs : List (Text × α)} :
    (ofPairs pairs).get? key = some value ↔ ∃ before after : Members α,
      pairs = before ++ (key, value) :: after ∧ key ∉ after.keys := by
  rw [get?_ofPairs, get?_eq_some_iff]
  constructor
  · rintro ⟨before, after, hp, hk⟩
    refine ⟨after.reverse, before.reverse, ?_, ?_⟩
    · rw [List.reverse_eq_append_iff.1 hp, List.reverse_cons, List.append_assoc]
      rfl
    · rwa [keys, List.map_reverse, List.mem_reverse]
  · rintro ⟨before, after, rfl, hk⟩
    refine ⟨after.reverse, before.reverse, by simp, ?_⟩
    rwa [keys, List.map_reverse, List.mem_reverse]

/-- Later pairs come first. -/
theorem get?_ofPairs_append (key : Text) (pairs others : List (Text × α)) :
    (ofPairs (pairs ++ others)).get? key =
      ((ofPairs others).get? key).or ((ofPairs pairs).get? key) := by
  rw [get?_ofPairs, List.reverse_append, get?_append, get?_ofPairs, get?_ofPairs]

/-- Where no key is repeated, the order of the pairs makes no difference. -/
theorem get?_ofPairs_of_perm {pairs others : Members α} (hn : pairs.keys.Nodup)
    (hp : pairs.Perm others) (key : Text) :
    (ofPairs pairs).get? key = (ofPairs others).get? key := by
  have ho : others.keys.Nodup := (hp.map _).nodup_iff.1 hn
  rw [ofPairs_of_nodup hn, ofPairs_of_nodup ho]
  refine Option.ext fun value => ?_
  rw [← mem_iff_get? hn, ← mem_iff_get? ho, hp.mem_iff]

end WebDocs.Members
