import GameSource.Files.Disk
/-!
# What there is behind a path

A file holds a text in an encoding (`FileHolds`), or there is a reason why it has none (`LacksText`).  The reader gives
the text with its lines closed in the one case (`readText_eq_ok_iff`) and tells the reason in the other
(`readText_eq_error_iff`), for every disk and whatever further codecs it has.
-/
namespace GameSource

theorem ofName?_utf8 : Encoding.ofName? "utf-8".toList = some .utf8 := rfl

theorem Disk.codec_of_ofName? {name : Text} {e : Encoding} (h : Encoding.ofName? name = some e) (disk : Disk) :
    disk.codec name = .ok fun bytes => (decode e bytes).mapError .undecodable := by
  unfold codec
  rw [h]

variable {disk : Disk} {encoding content shown : Text} {p : Path}

/-- The file behind a path can be opened, and its bytes stand for the text in the encoding of that name. -/
structure FileHolds (disk : Disk) (encoding : Text) (p : Path) (content : Text) : Prop where
  encoding_null : encoding.contains '\x00' = false
  path_null : p.text.contains '\x00' = false
  decoded : ∃ codec bytes, disk.codec encoding = .ok codec ∧ disk p = .ok bytes ∧ codec bytes = .ok content

/-- In an encoding that is given here, a file holds what its codec makes of the bytes. -/
theorem fileHolds_iff {e : Encoding} (he : Encoding.ofName? encoding = some e) : FileHolds disk encoding p content ↔
    encoding.contains '\x00' = false ∧ p.text.contains '\x00' = false ∧
      ∃ bytes, disk p = .ok bytes ∧ decode e bytes = .ok content := by
  have hdecode (bytes : Bytes) :
      (decode e bytes).mapError ReadFault.undecodable = .ok content ↔ decode e bytes = .ok content := by
    cases decode e bytes with
    | ok t => exact ⟨fun h => congrArg _ (Except.ok.inj h), fun h => congrArg _ (Except.ok.inj h)⟩
    | error fault => exact ⟨fun h => (by cases h), fun h => (by cases h)⟩
  constructor
  · rintro ⟨hnull, hpath, codec, bytes, hcodec, hbytes, hcontent⟩
    rw [disk.codec_of_ofName? he] at hcodec
    obtain rfl := Except.ok.inj hcodec
    exact ⟨hnull, hpath, bytes, hbytes, (hdecode bytes).1 hcontent⟩
  · rintro ⟨hnull, hpath, bytes, hbytes, hcontent⟩
    exact ⟨hnull, hpath, _, bytes, disk.codec_of_ofName? he, hbytes, (hdecode bytes).2 hcontent⟩

/-- **Why there is no text behind a path**, in the order in which it is found out: a null character in the name of the
encoding or in the path, no bytes, no codec for the bytes, or bytes that the codec cannot decode. -/
inductive LacksText (disk : Disk) (encoding shown : Text) (p : Path) : OpenFault → Prop where
  | nullInEncoding (h : encoding.contains '\x00' = true) : LacksText disk encoding shown p .nullInEncoding
  | nullInPath (he : encoding.contains '\x00' = false) (h : p.text.contains '\x00' = true) :
    LacksText disk encoding shown p .nullInPath
  | bytes {cause : ReadFault} (he : encoding.contains '\x00' = false) (hp : p.text.contains '\x00' = false)
      (h : disk p = .error cause) : LacksText disk encoding shown p (.unreadable (.ofReadFault shown cause))
  | codec {bytes : Bytes} {fault : EncodingFault} (he : encoding.contains '\x00' = false)
      (hp : p.text.contains '\x00' = false) (hb : disk p = .ok bytes) (h : disk.codec encoding = .error fault) :
    LacksText disk encoding shown p (.badEncoding fault encoding)
  | decoding {bytes : Bytes} {codec : Bytes → Except ReadFault Text} {cause : ReadFault}
      (he : encoding.contains '\x00' = false) (hp : p.text.contains '\x00' = false) (hb : disk p = .ok bytes)
      (hc : disk.codec encoding = .ok codec) (h : codec bytes = .error cause) :
    LacksText disk encoding shown p (.unreadable (.ofReadFault shown cause))

theorem holds_or_lacksText (disk : Disk) (encoding shown : Text) (p : Path) :
    (∃ content, FileHolds disk encoding p content) ∨ ∃ e, LacksText disk encoding shown p e := by
  cases he : encoding.contains '\x00' with
  | true => exact .inr ⟨_, .nullInEncoding he⟩
  | false =>
    cases hp : p.text.contains '\x00' with
    | true => exact .inr ⟨_, .nullInPath he hp⟩
    | false =>
      cases hb : disk p with
      | error cause => exact .inr ⟨_, .bytes he hp hb⟩
      | ok bytes =>
        cases hc : disk.codec encoding with
        | error fault => exact .inr ⟨_, .codec he hp hb hc⟩
        | ok codec =>
          cases hd : codec bytes with
          | error cause => exact .inr ⟨_, .decoding he hp hb hc hd⟩
          | ok content => exact .inl ⟨content, he, hp, codec, bytes, hc, hb, hd⟩

/-- A text that a file holds is read with its lines closed. -/
theorem FileHolds.readText_eq_ok (h : FileHolds disk encoding p content) (shown : Text) :
    readText disk encoding shown p = .ok (closeLastLine (unifyLineEnds content)) := by
  obtain ⟨codec, bytes, hcodec, hbytes, hdecode⟩ := h.decoded
  unfold readText
  simp only [h.encoding_null, h.path_null, hbytes, hcodec, Bool.false_eq_true, if_false]
  change ((codec bytes).mapError _ >>= _) = _
  rw [hdecode]
  rfl

theorem LacksText.readText_eq {e : OpenFault} (h : LacksText disk encoding shown p e) :
    readText disk encoding shown p = .error e := by
  unfold readText
  cases h with
  | nullInEncoding h =>
    rw [if_pos h]
    rfl
  | nullInPath he h =>
    simp only [he, h, Bool.false_eq_true, if_false, if_true]
    rfl
  | bytes he hp h =>
    simp only [he, hp, h, Bool.false_eq_true, if_false]
    rfl
  | codec he hp hb h =>
    simp only [he, hp, hb, h, Bool.false_eq_true, if_false]
    rfl
  | @decoding bytes codec cause he hp hb hc h =>
    simp only [he, hp, hb, hc, Bool.false_eq_true, if_false]
    change ((codec bytes).mapError _ >>= _) = _
    rw [h]
    rfl

/-- **There is a text behind a path just if the file holds one.** -/
theorem readText_eq_ok_iff {t : Text} : readText disk encoding shown p = .ok t ↔
    ∃ content, FileHolds disk encoding p content ∧ t = closeLastLine (unifyLineEnds content) := by
  constructor
  · intro hread
    rcases holds_or_lacksText disk encoding shown p with ⟨content, h⟩ | ⟨e, h⟩
    · exact ⟨content, h, Except.ok.inj (hread.symm.trans (h.readText_eq_ok shown))⟩
    · cases hread.symm.trans h.readText_eq
  · rintro ⟨content, h, rfl⟩
    exact h.readText_eq_ok shown

/-- **What is told where there is no text is the reason why.** -/
theorem readText_eq_error_iff {e : OpenFault} : readText disk encoding shown p = .error e ↔
    LacksText disk encoding shown p e := by
  constructor
  · intro hread
    rcases holds_or_lacksText disk encoding shown p with ⟨content, h⟩ | ⟨e', h⟩
    · cases hread.symm.trans (h.readText_eq_ok shown)
    · rwa [Except.error.inj (hread.symm.trans h.readText_eq)]
  · exact LacksText.readText_eq

end GameSource
