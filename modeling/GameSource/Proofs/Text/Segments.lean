import GameSource.Proofs.Initializer.Comments
/-!
# Texts in segments

A source text as it is written: code, string literals and comments, one behind the other.  A mark that opens a comment
means nothing within a literal, and neither do quotes within a comment.  So whatever segments a text consists of, its
code and its literals are kept as they stand, and of the comments the line feeds of block comments
(`eraseComments_segments`).
-/
namespace GameSource

/-- What stands for one character between the quotes of a string literal. -/
inductive LiteralChar where
  | plain (c : Char) (h : c ≠ '"' ∧ c ≠ '\n' ∧ c ≠ '\\')
  /-- A backslash and any character, also white space, but no line feed. -/
  | escaped (c : Char) (h : c ≠ '\n')

namespace LiteralChar

def text : LiteralChar → Text
  | plain c _ => [c]
  | escaped c _ => ['\\', c]

theorem newline (l : LiteralChar) : '\n' ∉ l.text := by
  cases l with
  | plain c h => simpa [text] using h.2.1.symm
  | escaped c h => simpa [text] using h.symm

/-- Characters up to a closing quote are those of a string literal. -/
theorem quotedTail : ∀ body : List LiteralChar, QuotedTail '"' (body.flatMap text ++ ['"'])
  | [] => .close
  | plain _ h :: body => .char h (quotedTail body)
  | escaped _ _ :: body => .escape (quotedTail body)

end LiteralChar

/-- A segment of a source text. -/
inductive Segment where
  /-- Code outside of literals, without slashes and backslashes. -/
  | code (t : Text) (h : ∀ c ∈ t, c ≠ '"' ∧ c ≠ '/' ∧ c ≠ '\\')
  | literal (body : List LiteralChar)
  /-- What follows the two slashes of a line comment. -/
  | lineComment (body : Text) (h : '\n' ∉ body)
  /-- What stands between the marks of a block comment. -/
  | blockComment (body : Text) (h : ¬['*', '/'] <:+: body)

namespace Segment

/-- The segment as it is written. -/
def text : Segment → Text
  | code t _ => t
  | literal body => '"' :: (body.flatMap LiteralChar.text ++ ['"'])
  | lineComment body _ => '/' :: '/' :: body
  | blockComment body _ => '/' :: '*' :: (body ++ ['*', '/'])

/-- What is left of the segment without comments. -/
def kept : Segment → Text
  | code t h => (code t h).text
  | literal body => (literal body).text
  | lineComment _ _ => []
  | blockComment body _ => body.filter (· == '\n')

def isLineComment : Segment → Bool
  | lineComment _ _ => true
  | _ => false

/-- Behind every line comment its line ends, or the text. -/
def EndLines : List Segment → Prop
  | [] => True
  | s :: rest => (s.isLineComment → ∀ c ∈ (rest.flatMap text).head?, c = '\n') ∧ EndLines rest

end Segment

/-! ## One segment before any text -/

theorem eraseComments_code_append {t : Text} (u : Text) (h : ∀ c ∈ t, c ≠ '"' ∧ c ≠ '/' ∧ c ≠ '\\') :
    eraseComments (t ++ u) = t ++ eraseComments u := by
  induction t with
  | nil => rfl
  | cons c t ih =>
    obtain ⟨hquote, hslash, hbackslash⟩ := h c List.mem_cons_self
    rw [List.cons_append, eraseComments_code hquote hbackslash fun hc => absurd hc hslash,
      ih fun d hd => h d (List.mem_cons_of_mem c hd)]
    rfl

theorem eraseComments_literal_append (body : List LiteralChar) (u : Text) :
    eraseComments ((Segment.literal body).text ++ u) = (Segment.literal body).text ++ eraseComments u := by
  have htail := LiteralChar.quotedTail body
  have hfeed : '\n' ∉ body.flatMap LiteralChar.text ++ ['"'] := by
    rw [List.mem_append, List.mem_flatMap]
    rintro (⟨l, -, hl⟩ | hquote)
    · exact l.newline hl
    · exact absurd hquote (by decide)
  have hjoined := Initializer.spliceLines_of_not_mem hfeed
  have herase := eraseComments_quoted (.inl rfl) htail (replace_comment_string htail u)
  rw [hjoined] at herase
  exact herase

/-- The first mark that closes a comment is its own one: no star of the mark belongs to an earlier one. -/
theorem not_infix_concat_star {body : Text} (h : ¬['*', '/'] <:+: body) : ¬['*', '/'] <:+: body ++ ['*'] := by
  rw [List.infix_concat_iff]
  rintro (⟨p, hp⟩ | hwithin)
  · have hlast := congrArg List.getLast? hp
    rw [List.getLast?_append, List.getLast?_concat] at hlast
    exact absurd (Option.some.inj hlast) (by decide)
  · exact h hwithin

theorem eraseComments_segment_append {s : Segment} {u : Text} (h : s.isLineComment → ∀ c ∈ u.head?, c = '\n') :
    eraseComments (s.text ++ u) = s.kept ++ eraseComments u := by
  cases s with
  | code t hcode => exact eraseComments_code_append u hcode
  | literal body => exact eraseComments_literal_append body u
  | lineComment body hbody => exact eraseComments_lineComment hbody (h rfl)
  | blockComment body hbody =>
    have herase := eraseComments_blockComment (not_infix_concat_star hbody) u
    simpa [Segment.text, Segment.kept] using herase

/-! ## All segments of a text -/

/-- **Of a text in segments its code and its literals are kept as they stand**, with the line feeds of its block
comments, in whatever order the segments come. -/
theorem eraseComments_segments {segments : List Segment} (h : Segment.EndLines segments) :
    eraseComments (segments.flatMap Segment.text) = segments.flatMap Segment.kept := by
  induction segments with
  | nil => rfl
  | cons s rest ih =>
    obtain ⟨hend, hrest⟩ := h
    rw [List.flatMap_cons, List.flatMap_cons, eraseComments_segment_append hend, ih hrest]

/-- Marks of comments in a literal, and quotes and other marks in comments. -/
theorem eraseComments_segments_disguised :
    eraseComments "s = \"/*\\\"//\"; // \"x\ny/* \"\n//**/z//".toList = "s = \"/*\\\"//\"; \ny\nz".toList := by
  exact @eraseComments_segments [.code "s = ".toList (by simp),
    .literal [.plain '/' (by decide), .plain '*' (by decide), .escaped '"' (by decide), .plain '/' (by decide),
      .plain '/' (by decide)],
    .code "; ".toList (by simp), .lineComment " \"x".toList (by decide), .code "\ny".toList (by simp),
    .blockComment " \"\n//*".toList (by decide), .code "z".toList (by simp), .lineComment [] (by decide)]
    (by simp [Segment.EndLines, Segment.isLineComment, Segment.text])

end GameSource
