import GameSource.Proofs.Initializer.Complete
import Mathlib
/-!
# The keys of items behind an index

The key of an item whose path begins with an index is the text of the path without its first two brackets: the one that
opens the index, and the first closing one, which may stand within the index.  So an index is kept whole unless
something else stands behind a closing bracket in it, and two indices have one key if they are the same but for the
places of their first closing brackets (`member?_index_iff`).
-/
namespace GameSource.Initializer

/-! ## Texts without their first closing bracket -/

theorem takeWhile_append_drop (c : Char) (t : Text) :
    t.takeWhile (· != c) ++ (t.dropWhile (· != c)).drop 1 = t.erase c := by
  induction t with
  | nil => rfl
  | cons d t ih =>
    by_cases hd : d = c
    · simp [hd]
    · simpa [hd] using ih

/-- A character commutes with a text only if the text has no other. -/
theorem append_cons_eq_cons_append_iff {c : Char} {t rest : Text} :
    t ++ c :: rest = c :: (t ++ rest) ↔ ∀ d ∈ t, d = c := by
  induction t with
  | nil => simp
  | cons d t ih =>
    rw [List.cons_append, List.cons.injEq, List.forall_mem_cons]
    refine and_congr_right fun hd => ?_
    rw [← ih, hd]
    rfl

/-- Without its first closing bracket a text in brackets is kept if nothing else stands behind such a bracket in it. -/
theorem erase_bracket_eq_iff {c : Char} {t rest : Text} :
    (t ++ c :: rest).erase c = t ++ rest ↔ ∀ d ∈ t.dropWhile (· != c), d = c := by
  induction t with
  | nil => simp
  | cons d t ih =>
    by_cases hd : d = c
    · subst hd
      simp [append_cons_eq_cons_append_iff]
    · simp [hd, ih]

/-- Two texts in brackets are alike without their first closing brackets if that is all they differ in. -/
theorem erase_concat_eq_iff {c : Char} {s t : Text} (hne : s ≠ t) :
    (s ++ [c]).erase c = (t ++ [c]).erase c ↔ c ∈ s ∧ c ∈ t ∧ s.erase c = t.erase c := by
  rw [List.erase_append, List.erase_append]
  by_cases hs : c ∈ s
  · by_cases ht : c ∈ t
    · simp [hs, ht]
    · have hlast : s.erase c ++ [c] ≠ t := fun h => ht (h ▸ by simp)
      simp [hs, ht, hlast]
  · by_cases ht : c ∈ t
    · have hlast : s ≠ t.erase c ++ [c] := fun h => hs (h ▸ by simp)
      simp [hs, ht, hlast]
    · simp [hs, ht, hne]

/-! ## Keys -/

theorem member?_of_index {item : Item} {index : List Token} {path : List Designator}
    (h : item.path = .index index :: path) :
    item.member? = some ((render index ++ ']' :: pathText path).erase ']') := by
  have htext : pathText (.index index :: path) = '[' :: (render index ++ ']' :: pathText path) := by
    simp [pathText, Designator.text]
  rw [Item.member?, h, htext, ← takeWhile_append_drop]
  simp

/-- **An index is kept whole in the key of its item, unless something else stands behind a closing bracket in it.**  An
item is read as it is spelled; its key is the text of its first index and of the designators behind it just if every
character behind the first closing bracket of the index is one, too.  Two items that have nothing but an index, of
different texts, have one key just if these texts are the same but for the places of their first closing brackets. -/
theorem member?_index_iff {item : Item} {index : List Token} {path : List Designator}
    (hpath : item.path = .index index :: path) :
    (∀ ts, SpellsItem item ts → ∀ stop t rest, endsValue t → ReadsItem stop (ts ++ t :: rest) item (t :: rest)) ∧
    (item.member? = some (render index ++ pathText path) ↔ ∀ c ∈ (render index).dropWhile (· != ']'), c = ']') ∧
    ∀ (other : Item) (index' : List Token), path = [] → other.path = [.index index'] → render index ≠ render index' →
      (item.member? = other.member? ↔
        ']' ∈ render index ∧ ']' ∈ render index' ∧ (render index).erase ']' = (render index').erase ']') := by
  refine ⟨fun ts h stop t rest ht => readsItem_spells stop h ht rest, ?_, ?_⟩
  · rw [member?_of_index hpath, Option.some.injEq]
    exact erase_bracket_eq_iff
  · rintro other index' rfl hother hne
    rw [member?_of_index hpath, member?_of_index hother, Option.some.injEq]
    exact erase_concat_eq_iff hne

/-- An index of an index, at the start. -/
def subscript (name index : String) : List Token := [word name, sign '[', word index, sign ']']

/-- `[t[n]].x = v` has the key `t[n].x`, and `[t[n]]` and `[t[m]]` have two keys. -/
theorem member?_index_subscript :
    ReadsItem .start (sign '[' :: (subscript "t" "n" ++ [sign ']', sign '.', word "x", sign '=', word "v", sign ',']))
      (.scalar [.index (subscript "t" "n"), .member "x".toList] [word "v"]) [sign ','] ∧
    (Item.scalar [.index (subscript "t" "n"), .member "x".toList] [word "v"]).member? = some "t[n].x".toList ∧
    (Item.scalar [.index (subscript "t" "n")] [word "v"]).member? ≠
      (Item.scalar [.index (subscript "t" "m")] [word "v"]).member? := by
  have hindex : Within (isPunctuator ']') (word "t" :: sign '[' :: ([word "n"] ++ sign ']' :: [])) :=
    .token rfl rfl (.group rfl (.token rfl rfl (.nil _)) rfl (.nil _))
  have hbrackets : SpellsDesignator (.index (subscript "t" "n"))
      (sign '[' :: (subscript "t" "n" ++ [sign ']'])) := .index rfl hindex rfl
  have hmember : SpellsDesignator (.member (word "x").text) [sign '.', word "x"] := .member rfl rfl
  have hpath := SpellsPath.cons hbrackets (.cons hmember .nil)
  have hequals : isPunctuator '=' (sign '=') = true := rfl
  have hvalue : Within endsValue [word "v"] := .token rfl rfl (.nil _)
  have hspells := SpellsItem.scalar (.path (by simp) hpath hequals) (by simp) hvalue rfl (by simp)
  obtain ⟨hread, hkept, -⟩ :=
    @member?_index_iff (.scalar [.index (subscript "t" "n"), .member "x".toList] [word "v"]) _ _ rfl
  obtain ⟨-, -, hshared⟩ := @member?_index_iff (.scalar [.index (subscript "t" "n")] [word "v"]) _ _ rfl
  have hclosing : (render (subscript "t" "n")).dropWhile (· != ']') = [']'] := rfl
  have hclosed : ∀ c ∈ (render (subscript "t" "n")).dropWhile (· != ']'), c = ']' := by simp [hclosing]
  refine ⟨hread _ hspells .start (sign ',') [] rfl, hkept.2 hclosed, fun h => ?_⟩
  have hsame := (hshared (.scalar [.index (subscript "t" "m")] [word "v"]) _ rfl rfl (by decide)).1 h
  exact absurd hsame.2.2 (by decide)

/-- `[a[0] + 1]` and `[a[0 + 1]]` are one member, which has the value that comes last. -/
theorem member?_index_shared : ∃ lexed index index' x y,
    lex "A = \x7b[a[0] + 1] = 1, [a[0 + 1]] = 2\x7d;".toList = .ok lexed ∧
    readObjects lexed.stop lexed.tokens =
      .ok { objects := [("A".toList, [.scalar [.index index] x, .scalar [.index index'] y])], faults := [] } ∧
    render index = "a[0] + 1".toList ∧ render index' = "a[0 + 1]".toList ∧
    structs "A = \x7b[a[0] + 1] = 1, [a[0 + 1]] = 2\x7d;".toList [] (fun _ => none) [] =
      (.ok [("A".toList, [("a[0 + 1]".toList, "2".toList)])], []) := by
  refine ⟨_, _, _, _, _, by rfl, by cbv, by cbv, by cbv, by cbv⟩

end GameSource.Initializer
