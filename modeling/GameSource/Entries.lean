/-!
# Maps in order of insertion

A list of keys and values in which no key is put twice: a key keeps the place where it was put first, and its value
is the one that was put last.
-/
namespace GameSource

abbrev Entries (α β : Type) := List (α × β)

namespace Entries

variable {α β : Type} [DecidableEq α]

def find? (key : α) : Entries α β → Option β
  | [] => none
  | (k, v) :: es => if k = key then some v else find? key es

def contains (key : α) (es : Entries α β) : Bool := (es.find? key).isSome

/-- Gives a key a value: in its place if it has one, else at the end. -/
def put (key : α) (value : β) : Entries α β → Entries α β
  | [] => [(key, value)]
  | (k, v) :: es => if k = key then (k, value) :: es else (k, v) :: put key value es

/-- Gives a key a value unless it has one. -/
def putNew (key : α) (value : β) (es : Entries α β) : Entries α β :=
  if es.contains key then es else es ++ [(key, value)]

def erase (key : α) (es : Entries α β) : Entries α β := es.filter fun e => e.1 ≠ key

/-- Puts further entries, one after the other. -/
def putAll (es new : Entries α β) : Entries α β := new.foldl (fun es e => put e.1 e.2 es) es

/-- The map that putting the entries in order makes. -/
def ofList (es : List (α × β)) : Entries α β := putAll [] es

@[simp] theorem find?_put_self (key : α) (value : β) (es : Entries α β) :
    find? key (put key value es) = some value := by
  induction es with
  | nil => simp [put, find?]
  | cons e es ih =>
    by_cases h : e.1 = key
    · simp [put, find?, h]
    · simp [put, find?, h, ih]

theorem find?_put_of_ne {key k : α} (h : k ≠ key) (value : β) (es : Entries α β) :
    find? k (put key value es) = find? k es := by
  induction es with
  | nil => simp [put, find?, Ne.symm h]
  | cons e es ih =>
    by_cases h' : e.1 = key
    · have hk : e.1 ≠ k := fun e' => h (e' ▸ h')
      simp [put, find?, h', Ne.symm h]
    · by_cases hk : e.1 = k
      · simp [put, find?, hk, h]
      · simp [put, find?, h', hk, ih]

@[simp] theorem put_put (key : α) (v w : β) (es : Entries α β) : put key w (put key v es) = put key w es := by
  induction es with
  | nil => simp [put]
  | cons e es ih =>
    by_cases h : e.1 = key
    · simp [put, h]
    · simp [put, h, ih]

/-- A key has the value that was put last, else the one it had before. -/
theorem find?_putAll (k : α) : ∀ es new : Entries α β, find? k (putAll es new) = (find? k (ofList new)).or (find? k es)
  | es, [] => rfl
  | es, (key, v) :: new => by
    have hes : find? k (putAll es ((key, v) :: new)) = (find? k (ofList new)).or (find? k (put key v es)) :=
      find?_putAll k (put key v es) new
    have hnil : find? k (ofList ((key, v) :: new)) = (find? k (ofList new)).or (find? k (put key v [])) :=
      find?_putAll k (put key v []) new
    by_cases h : k = key
    · rw [hes, hnil, h, find?_put_self, find?_put_self, Option.or_assoc, Option.some_or]
    · rw [hes, hnil, find?_put_of_ne h, find?_put_of_ne h, Option.or_assoc]
      rfl

theorem mem_of_find? {key : α} {v : β} : ∀ {es : Entries α β}, find? key es = some v → (key, v) ∈ es
  | (k, w) :: es, h => by
    rw [find?] at h
    split at h
    · rename_i hk
      rw [← hk, ← Option.some.inj h]
      exact List.mem_cons_self
    · exact List.mem_cons_of_mem _ (mem_of_find? h)

theorem find?_eq_none_of_not_mem {key : α} {es : Entries α β} (h : key ∉ es.map Prod.fst) : find? key es = none := by
  cases hv : find? key es with
  | none => rfl
  | some v => exact absurd (List.mem_map.2 ⟨_, mem_of_find? hv, rfl⟩) h

theorem exists_find?_of_mem {key : α} : ∀ {es : Entries α β}, key ∈ es.map Prod.fst → ∃ v, find? key es = some v
  | (k, v) :: es, h => by
    rw [find?]
    split
    · exact ⟨v, rfl⟩
    · rename_i hk
      rcases List.mem_cons.1 h with h | h
      · exact absurd h.symm hk
      · exact exists_find?_of_mem h

/-- A key that has no value has none among fewer entries. -/
theorem find?_eq_none_of_sublist {key : α} {fewer es : Entries α β} (h : fewer.Sublist es)
    (hnone : find? key es = none) : find? key fewer = none := by
  refine find?_eq_none_of_not_mem fun hmem => ?_
  obtain ⟨v, hv⟩ := exists_find?_of_mem ((h.map Prod.fst).subset hmem)
  exact absurd (hnone.symm.trans hv) (by simp)

theorem find?_ofList_cons (k key : α) (value : β) (es : List (α × β)) :
    find? k (ofList ((key, value) :: es)) = (find? k (ofList es)).or (if key = k then some value else none) :=
  find?_putAll k [(key, value)] es

/-- A key has a value that was put. -/
theorem mem_of_find?_ofList {key : α} {v : β} : ∀ {es : List (α × β)}, find? key (ofList es) = some v → (key, v) ∈ es
  | (k, w) :: es, h => by
    rw [find?_ofList_cons] at h
    cases hes : find? key (ofList es) with
    | some u =>
      rw [hes] at h
      obtain rfl : u = v := Option.some.inj h
      exact List.mem_cons_of_mem _ (mem_of_find?_ofList hes)
    | none =>
      rw [hes, Option.none_or] at h
      split at h
      · rename_i hk
        rw [hk, Option.some.inj h]
        exact List.mem_cons_self
      · cases h

/-- A key keeps its place; a new one comes last. -/
theorem map_fst_put (key : α) (value : β) : ∀ es : Entries α β, (put key value es).map Prod.fst =
    if key ∈ es.map Prod.fst then es.map Prod.fst else es.map Prod.fst ++ [key]
  | [] => rfl
  | (k, w) :: es => by
    rw [put]
    by_cases hk : k = key
    · rw [if_pos hk, if_pos (by simp [hk])]
      rfl
    · have hmem : key ∈ ((k, w) :: es).map Prod.fst ↔ key ∈ es.map Prod.fst := by simp [Ne.symm hk]
      rw [if_neg hk, List.map_cons, map_fst_put key value es]
      simp only [hmem]
      split
      · rfl
      · rfl

theorem mem_of_mem_put {key : α} {value : β} {e : α × β} : ∀ {es : Entries α β}, e ∈ put key value es →
    e = (key, value) ∨ e ∈ es
  | [], h => .inl (List.mem_singleton.1 h)
  | (k, w) :: es, h => by
    rw [put] at h
    split at h
    · rename_i hk
      exact (List.mem_cons.1 h).imp (fun he => hk ▸ he) (List.mem_cons_of_mem _)
    · rcases List.mem_cons.1 h with rfl | h
      · exact .inr List.mem_cons_self
      · exact (mem_of_mem_put h).imp_right (List.mem_cons_of_mem _)

theorem mem_of_mem_putAll {e : α × β} : ∀ {es new : Entries α β}, e ∈ putAll es new → e ∈ new ∨ e ∈ es
  | _, [], h => .inr h
  | es, (key, value) :: new, h => by
    have hput : e ∈ putAll (put key value es) new := h
    rcases mem_of_mem_putAll hput with h | h
    · exact .inl (List.mem_cons_of_mem _ h)
    · exact (mem_of_mem_put h).imp_left fun he => List.mem_cons.2 (.inl he)

/-- Putting entries makes no others. -/
theorem mem_of_mem_ofList {e : α × β} {es : List (α × β)} (h : e ∈ ofList es) : e ∈ es :=
  (mem_of_mem_putAll h).resolve_right List.not_mem_nil

theorem exists_find?_ofList {key : α} {v : β} : ∀ {es : List (α × β)}, (key, v) ∈ es →
    ∃ w, find? key (ofList es) = some w
  | (k, w) :: es, h => by
    rw [find?_ofList_cons]
    cases hes : find? key (ofList es) with
    | some u => exact ⟨u, rfl⟩
    | none =>
      rcases List.mem_cons.1 h with heq | h
      · cases heq
        exact ⟨v, by simp⟩
      · obtain ⟨u, hu⟩ := exists_find?_ofList h
        rw [hes] at hu
        cases hu

/-- A key for which one value only was put has it. -/
theorem find?_ofList_of_mem {key : α} {v : β} {es : List (α × β)} (h : (key, v) ∈ es)
    (hsame : ∀ w, (key, w) ∈ es → w = v) : find? key (ofList es) = some v := by
  obtain ⟨w, hw⟩ := exists_find?_ofList h
  rw [hw, hsame w (mem_of_find?_ofList hw)]

/-- Among entries of different keys a key has its value. -/
theorem find?_of_mem {key : α} {v : β} : ∀ {es : Entries α β}, (es.map Prod.fst).Nodup → (key, v) ∈ es →
    find? key es = some v
  | (k, w) :: es, hnodup, h => by
    obtain ⟨hnot, hnodup⟩ := List.nodup_cons.1 hnodup
    rw [find?]
    rcases List.mem_cons.1 h with heq | h
    · cases heq
      rw [if_pos rfl]
    · have hne : k ≠ key := fun hk => hnot (hk ▸ List.mem_map.2 ⟨_, h, rfl⟩)
      rw [if_neg hne, find?_of_mem hnodup h]

theorem isSome_find? {key : α} {es : Entries α β} : (find? key es).isSome ↔ key ∈ es.map Prod.fst := by
  constructor
  · intro h
    obtain ⟨v, hv⟩ := Option.isSome_iff_exists.1 h
    exact List.mem_map.2 ⟨_, mem_of_find? hv, rfl⟩
  · intro h
    obtain ⟨v, hv⟩ := exists_find?_of_mem h
    rw [hv]
    rfl

/-- A key has the value with which it comes first. -/
theorem find?_eq_some_iff {key : α} {v : β} : ∀ {es : Entries α β}, find? key es = some v ↔
    ∃ before after, es = before ++ (key, v) :: after ∧ key ∉ before.map Prod.fst
  | [] => by simp [find?]
  | (k, w) :: es => by
    rw [find?]
    by_cases hk : k = key
    · subst hk
      rw [if_pos rfl]
      constructor
      · intro h
        cases h
        exact ⟨[], es, rfl, List.not_mem_nil⟩
      · rintro ⟨before, after, hsplit, hnot⟩
        cases before with
        | nil =>
          cases hsplit
          rfl
        | cons e before =>
          cases hsplit
          exact absurd List.mem_cons_self hnot
    · rw [if_neg hk, find?_eq_some_iff]
      constructor
      · rintro ⟨before, after, rfl, hnot⟩
        exact ⟨(k, w) :: before, after, rfl, fun hmem => (List.mem_cons.1 hmem).elim (fun heq => hk heq.symm) hnot⟩
      · rintro ⟨before, after, hsplit, hnot⟩
        cases before with
        | nil =>
          cases hsplit
          exact absurd rfl hk
        | cons e before =>
          cases hsplit
          exact ⟨before, after, rfl, fun hmem => hnot (List.mem_cons_of_mem _ hmem)⟩

/-- Taking out a key leaves the others. -/
theorem find?_erase (key k : α) (es : Entries α β) :
    find? k (erase key es) = if k = key then none else find? k es := by
  induction es with
  | nil => simp [erase, find?]
  | cons e es ih =>
    by_cases h : e.1 = key
    · rw [erase, List.filter_cons_of_neg (by simp [h]), ← erase, ih, find?]
      split
      · rfl
      · rename_i hk
        rw [if_neg fun h' => hk (h'.symm.trans h)]
    · rw [erase, List.filter_cons_of_pos (by simp [h]), ← erase, find?, find?, ih]
      split
      · rename_i hk
        rw [if_neg fun h' => h (hk.trans h')]
      · rfl

theorem erase_erase (key : α) (es : Entries α β) : erase key (erase key es) = erase key es := by
  rw [erase, erase, List.filter_filter]
  simp

/-- Taking out a key that is not there changes nothing. -/
theorem erase_of_find? {key : α} {es : Entries α β} (h : find? key es = none) : erase key es = es := by
  refine List.filter_eq_self.2 fun e he => decide_eq_true fun hkey => ?_
  obtain ⟨v, hv⟩ := exists_find?_of_mem (List.mem_map.2 ⟨e, he, hkey⟩)
  exact absurd (h.symm.trans hv) (by simp)

/-- The entries in front come first. -/
theorem find?_append (k : α) (es new : Entries α β) : find? k (es ++ new) = (find? k es).or (find? k new) := by
  induction es with
  | nil => rfl
  | cons e es ih =>
    rw [List.cons_append, find?, find?, ih]
    split
    · rfl
    · rfl

theorem find?_of_prefix {k : α} {v : β} {es more : Entries α β} (h : es <+: more) (hv : find? k es = some v) :
    find? k more = some v := by
  obtain ⟨new, rfl⟩ := h
  rw [find?_append, hv, Option.some_or]

/-- Keeping the entries of some keys leaves those. -/
theorem find?_filter {p : α → Bool} {k : α} (hk : p k) (es : Entries α β) :
    find? k (es.filter fun e => p e.1) = find? k es := by
  induction es with
  | nil => rfl
  | cons e es ih =>
    rw [List.filter_cons, find?]
    split
    · rw [find?, ih]
    · rename_i hp
      have hne : e.1 ≠ k := fun h => hp (h ▸ hk)
      rw [ih, if_neg hne]

theorem length_erase_lt {key : α} {es : Entries α β} (h : es.contains key) : (erase key es).length < es.length := by
  obtain ⟨v, hv⟩ := Option.isSome_iff_exists.1 h
  exact List.length_filter_lt_length_iff_exists.2 ⟨(key, v), mem_of_find? hv, by simp⟩

/-- A new key is put at the end. -/
theorem put_of_find? {key : α} {value : β} {es : Entries α β} (h : find? key es = none) :
    put key value es = es ++ [(key, value)] := by
  induction es with
  | nil => rfl
  | cons e es ih =>
    rw [find?] at h
    split at h
    · cases h
    · rename_i hne
      rw [put, if_neg hne, ih h]
      rfl

/-- Entries of different keys are put one behind the other. -/
theorem putAll_of_nodup : ∀ {es new : Entries α β}, ((es ++ new).map Prod.fst).Nodup → putAll es new = es ++ new
  | es, [], _ => (List.append_nil es).symm
  | es, (key, value) :: new, h => by
    have hsplit : es ++ (key, value) :: new = es ++ [(key, value)] ++ new := by simp
    have hkey : key ∉ es.map Prod.fst := fun hmem => by
      rw [List.map_append, List.map_cons] at h
      exact (List.nodup_append.1 h).2.2 key hmem key List.mem_cons_self rfl
    have hput : putAll es ((key, value) :: new) = putAll (put key value es) new := rfl
    rw [hput, put_of_find? (find?_eq_none_of_not_mem hkey), hsplit, putAll_of_nodup (hsplit ▸ h)]

/-- **Entries of different keys make themselves.** -/
theorem ofList_of_nodup {es : List (α × β)} (h : (es.map Prod.fst).Nodup) : ofList es = es := putAll_of_nodup h

/-- A key that is kept has its value. -/
theorem find?_filter_eq_some {p : α → Bool} {k : α} {v : β} {es : Entries α β}
    (h : find? k (es.filter fun e => p e.1) = some v) : find? k es = some v := by
  have hk : p k := (List.mem_filter.1 (mem_of_find? h)).2
  rwa [find?_filter hk] at h

/-- A new value is given to a key that has none. -/
theorem find?_putNew (k key : α) (value : β) (es : Entries α β) :
    find? k (putNew key value es) = (find? k es).or (if k = key then some value else none) := by
  have hone : find? k [(key, value)] = if k = key then some value else none := by simp [find?, eq_comm]
  unfold putNew contains
  split
  · rename_i hkey
    obtain ⟨v, hv⟩ := Option.isSome_iff_exists.1 hkey
    split
    · rename_i hk
      rw [hk, hv, Option.some_or]
    · rw [Option.or_none]
  · rw [find?_append, hone]

theorem find?_putNew_self (key : α) (value : β) (es : Entries α β) :
    find? key (putNew key value es) = some ((find? key es).getD value) := by
  rw [find?_putNew, if_pos rfl]
  cases find? key es <;> rfl

/-! No key is put twice. -/

theorem nodup_put {key : α} {es : Entries α β} (h : (es.map Prod.fst).Nodup) (value : β) :
    ((put key value es).map Prod.fst).Nodup := by
  rw [map_fst_put]
  split
  · exact h
  · rename_i hnew
    refine List.nodup_append.2 ⟨h, by simp, fun k hk l hl => ?_⟩
    rw [List.mem_singleton.1 hl]
    exact fun heq => hnew (heq ▸ hk)

theorem nodup_putNew {key : α} {es : Entries α β} (h : (es.map Prod.fst).Nodup) (value : β) :
    ((putNew key value es).map Prod.fst).Nodup := by
  unfold putNew
  split
  · exact h
  · rename_i hkey
    have hnew : find? key es = none := by simpa [contains] using hkey
    rw [← put_of_find? hnew]
    exact nodup_put h value

theorem find?_mapValues {γ : Type} (f : β → γ) (key : α) (es : Entries α β) :
    find? key (es.map fun e => (e.1, f e.2)) = (find? key es).map f := by
  induction es with
  | nil => rfl
  | cons e es ih =>
    rw [List.map_cons, find?, find?, ih]
    split <;> rfl

theorem putNew_mapValues {γ : Type} (f : β → γ) (key : α) (value : β) (es : Entries α β) :
    (putNew key value es).map (fun e => (e.1, f e.2)) = putNew key (f value) (es.map fun e => (e.1, f e.2)) := by
  have hcontains : contains key (es.map fun e => (e.1, f e.2)) = contains key es := by
    rw [contains, contains, find?_mapValues, Option.isSome_map]
  unfold putNew
  rw [hcontains]
  split
  · rfl
  · exact List.map_append

end Entries

end GameSource
