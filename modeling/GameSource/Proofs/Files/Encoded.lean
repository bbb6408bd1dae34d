import GameSource.Files.Decode
/-!
# Texts as bytes

Every text is what some bytes stand for (`exists_decode`): each character is encoded in one to four bytes, which are read
back before whatever bytes follow.  Of an encoding with one byte for each character this holds of the texts over its
characters, and of no others (`exists_decode_iff`).
-/
namespace GameSource

/-- The bytes of a code point in UTF-8. -/
def utf8Bytes (n : Nat) : List Nat :=
  if n < 0x80 then [n]
  else if n < 0x800 then [0xC0 + n / 64, 0x80 + n % 64]
  else if n < 0x10000 then [0xE0 + n / 4096, 0x80 + n / 64 % 64, 0x80 + n % 64]
  else [0xF0 + n / 262144, 0x80 + n / 4096 % 64, 0x80 + n / 64 % 64, 0x80 + n % 64]

section
variable {b c d low high : Nat} {rest : List Nat}

/-- A byte from 0x80 to 0xBF goes on with a sequence anywhere. -/
def IsTail (b : Nat) : Prop := 0x80 ≤ b ∧ b ≤ 0xBF

theorem utf8Tail_one (hb : low ≤ b ∧ b ≤ high) : utf8Tail 1 low high ([b] ++ rest) = .ok [b] := by
  rw [List.singleton_append, utf8Tail, if_pos hb]
  rfl

theorem utf8Tail_two (hb : low ≤ b ∧ b ≤ high) (hc : IsTail c) :
    utf8Tail 2 low high ([b, c] ++ rest) = .ok [b, c] := by
  have hone : utf8Tail 1 0x80 0xBF ([c] ++ rest) = .ok [c] := utf8Tail_one hc
  rw [List.cons_append, utf8Tail, if_pos hb, hone]

theorem utf8Tail_three (hb : low ≤ b ∧ b ≤ high) (hc : IsTail c) (hd : IsTail d) :
    utf8Tail 3 low high ([b, c, d] ++ rest) = .ok [b, c, d] := by
  have htwo : utf8Tail 2 0x80 0xBF ([c, d] ++ rest) = .ok [c, d] := utf8Tail_two hc hd
  rw [List.cons_append, utf8Tail, if_pos hb, htwo]

end

/-- Bytes that go on with a sequence are skipped. -/
theorem utf8From_skip : ∀ (more rest : List Nat) (place : Nat),
    utf8From more.length place (more ++ rest) = utf8From 0 (place + more.length) rest
  | [], _, _ => rfl
  | b :: more, rest, place => by
    rw [List.length_cons, List.cons_append, utf8From, utf8From_skip more rest, Nat.add_right_comm, Nat.add_assoc]

/-- A first byte with the bytes that go on with it is one character. -/
theorem utf8From_sequence {first wanted low high : Nat} {more rest : List Nat} (hfirst : ¬ first < 0x80)
    (hsecond : utf8Second? first = some (wanted, low, high))
    (htail : utf8Tail wanted low high (more ++ rest) = .ok more) (place : Nat) :
    utf8From 0 place (first :: (more ++ rest)) =
      (utf8From 0 (place + 1 + more.length) rest).map (Char.ofNat (utf8Value first more) :: ·) := by
  rw [utf8From, if_neg hfirst, hsecond]
  simp only
  rw [htail]
  simp only
  rw [utf8From_skip]

/-! ## First and second bytes -/

section
variable {n : Nat}

theorem utf8Second?_two (hlow : 0x80 ≤ n) (hhigh : n < 0x800) :
    utf8Second? (0xC0 + n / 64) = some (1, 0x80, 0xBF) := by
  unfold utf8Second?
  rw [if_pos (by omega)]

/-- Where a first byte begins shorter sequences or surrogates too, fewer second bytes fit. -/
theorem utf8Second?_three (hlow : 0x800 ≤ n) (hhigh : n < 0x10000) (hn : n < 0xD800 ∨ 0xDFFF < n) :
    ∃ low high, utf8Second? (0xE0 + n / 4096) = some (2, low, high) ∧
      low ≤ 0x80 + n / 64 % 64 ∧ 0x80 + n / 64 % 64 ≤ high := by
  unfold utf8Second?
  rw [if_neg (by omega)]
  by_cases hfirst : 0xE0 + n / 4096 = 0xE0
  · refine ⟨0xA0, 0xBF, if_pos hfirst, ?_⟩
    omega
  by_cases hsurrogate : 0xE0 + n / 4096 = 0xED
  · refine ⟨0x80, 0x9F, by rw [if_neg hfirst, if_pos hsurrogate], ?_⟩
    omega
  · refine ⟨0x80, 0xBF, by rw [if_neg hfirst, if_neg hsurrogate, if_pos (by omega)], ?_⟩
    omega

theorem utf8Second?_four (hlow : 0x10000 ≤ n) (hhigh : n < 0x110000) :
    ∃ low high, utf8Second? (0xF0 + n / 262144) = some (3, low, high) ∧
      low ≤ 0x80 + n / 4096 % 64 ∧ 0x80 + n / 4096 % 64 ≤ high := by
  unfold utf8Second?
  rw [if_neg (by omega), if_neg (by omega), if_neg (by omega), if_neg (by omega)]
  by_cases hfirst : 0xF0 + n / 262144 = 0xF0
  · refine ⟨0x90, 0xBF, if_pos hfirst, ?_⟩
    omega
  by_cases hlast : 0xF0 + n / 262144 = 0xF4
  · refine ⟨0x80, 0x8F, by rw [if_neg hfirst, if_pos hlast], ?_⟩
    omega
  · refine ⟨0x80, 0xBF, by rw [if_neg hfirst, if_neg hlast, if_pos (by omega)], ?_⟩
    omega

end

theorem isTail_mod (n : Nat) : IsTail (0x80 + n % 64) := ⟨by omega, by omega⟩

/-! ## Characters -/

/-- **The bytes of a code point are read as its character**, whatever bytes follow. -/
theorem utf8From_bytes {n : Nat} (hn : n.isValidChar) (place : Nat) (rest : List Nat) :
    ∃ place', utf8From 0 place (utf8Bytes n ++ rest) = (utf8From 0 place' rest).map (Char.ofNat n :: ·) := by
  unfold utf8Bytes
  by_cases h1 : n < 0x80
  · refine ⟨place + 1, ?_⟩
    rw [if_pos h1, List.singleton_append, utf8From, if_pos h1]
  rw [if_neg h1]
  by_cases h2 : n < 0x800
  · rw [if_pos h2]
    have hvalue : utf8Value (0xC0 + n / 64) [0x80 + n % 64] = n := by
      simp only [utf8Value, List.foldl, List.length]
      omega
    have hsecond := utf8Second?_two (Nat.le_of_not_lt h1) h2
    have hread := @utf8From_sequence _ _ _ _ _ rest (by omega) hsecond (utf8Tail_one (isTail_mod n)) place
    rw [hvalue] at hread
    exact ⟨_, hread⟩
  rw [if_neg h2]
  by_cases h3 : n < 0x10000
  · rw [if_pos h3]
    have hvalue : utf8Value (0xE0 + n / 4096) [0x80 + n / 64 % 64, 0x80 + n % 64] = n := by
      simp only [utf8Value, List.foldl, List.length]
      omega
    have hrange : n < 0xD800 ∨ 0xDFFF < n := hn.imp_right And.left
    obtain ⟨low, high, hsecond, hfits⟩ := utf8Second?_three (Nat.le_of_not_lt h2) h3 hrange
    have hread := @utf8From_sequence _ _ _ _ _ rest (by omega) hsecond (utf8Tail_two hfits (isTail_mod n)) place
    rw [hvalue] at hread
    exact ⟨_, hread⟩
  · rw [if_neg h3]
    have hvalue : utf8Value (0xF0 + n / 262144) [0x80 + n / 4096 % 64, 0x80 + n / 64 % 64, 0x80 + n % 64] = n := by
      simp only [utf8Value, List.foldl, List.length]
      omega
    have hrange : n < 0x110000 := hn.elim (fun h => Nat.lt_trans h (by decide)) And.right
    obtain ⟨low, high, hsecond, hfits⟩ := utf8Second?_four (Nat.le_of_not_lt h3) hrange
    have hread := @utf8From_sequence _ _ _ _ _ rest (by omega) hsecond
      (utf8Tail_three hfits (isTail_mod (n / 64)) (isTail_mod n)) place
    rw [hvalue] at hread
    exact ⟨_, hread⟩

/-! ## Texts -/

theorem utf8From_flatMap : ∀ (t : Text) (place : Nat), utf8From 0 place (t.flatMap fun c => utf8Bytes c.toNat) = .ok t
  | [], _ => rfl
  | c :: cs, place => by
    have hvalid : c.toNat.isValidChar := c.valid
    obtain ⟨place', hread⟩ := utf8From_bytes hvalid place (cs.flatMap fun c => utf8Bytes c.toNat)
    rw [List.flatMap_cons, hread, utf8From_flatMap cs place', Char.ofNat_toNat]
    rfl

theorem utf8Bytes_lt {n b : Nat} (hn : n < 0x110000) (hb : b ∈ utf8Bytes n) : b < 256 := by
  unfold utf8Bytes at hb
  split at hb
  · simp at hb
    omega
  · split at hb
    · simp at hb
      omega
    · split at hb
      · simp at hb
        omega
      · simp at hb
        omega

/-- Bytes are told by their numbers. -/
theorem map_toNat_ofNat {ns : List Nat} (h : ∀ n ∈ ns, n < 256) : (ns.map UInt8.ofNat).map UInt8.toNat = ns := by
  rw [List.map_map]
  exact (List.map_congr_left fun n hn => Nat.mod_eq_of_lt (h n hn)).trans (List.map_id _)

/-- **Every text is what some bytes stand for.** -/
theorem exists_decode (t : Text) : ∃ bytes, decode .utf8 bytes = .ok t := by
  have hbytes : ∀ b ∈ t.flatMap fun c => utf8Bytes c.toNat, b < 256 := by
    intro b hb
    obtain ⟨c, -, hb⟩ := List.mem_flatMap.1 hb
    have hrange : c.toNat < 0x110000 := c.valid.elim (fun h => Nat.lt_trans h (by decide)) And.right
    exact utf8Bytes_lt hrange hb
  refine ⟨(t.flatMap fun c => utf8Bytes c.toNat).map UInt8.ofNat, ?_⟩
  simp only [decode, map_toNat_ofNat hbytes]
  exact utf8From_flatMap t 0

/-! ## One byte for each character -/

/-- The characters that bytes stand for in an encoding. -/
def Encoding.Has : Encoding → Char → Prop
  | utf8, _ => True
  | latin1, c => c.toNat < 256
  | ascii, c => c.toNat < 128

theorem toNat_ofNat_of_lt {n : Nat} (h : n < 256) : (Char.ofNat n).toNat = n := by
  have hvalid : n.isValidChar := .inl (Nat.lt_trans h (by decide))
  unfold Char.ofNat
  rw [dif_pos hvalid]
  rfl

theorem asciiFrom_eq_ok_iff {t : Text} {bs : List Nat} {place : Nat} :
    asciiFrom place bs = .ok t ↔ bs = t.map Char.toNat ∧ ∀ c ∈ t, c.toNat < 128 := by
  induction bs generalizing t place with
  | nil => cases t <;> simp [asciiFrom]
  | cons b bs ih =>
    rw [asciiFrom]
    constructor
    · intro h
      split at h
      · rename_i hb
        have hb' : (Char.ofNat b).toNat = b := toNat_ofNat_of_lt (Nat.lt_trans hb (by decide))
        cases hread : asciiFrom (place + 1) bs with
        | error fault =>
          rw [hread] at h
          cases h
        | ok behind =>
          rw [hread] at h
          obtain rfl := Except.ok.inj h
          obtain ⟨hbs, hall⟩ := ih.1 hread
          exact ⟨by rw [List.map_cons, hb', hbs], List.forall_mem_cons.2 ⟨hb'.symm ▸ hb, hall⟩⟩
      · cases h
    · rintro ⟨hbs, hall⟩
      cases t with
      | nil => cases hbs
      | cons c t =>
        obtain ⟨rfl, rfl⟩ := List.cons.inj hbs
        obtain ⟨hc, ht⟩ := List.forall_mem_cons.1 hall
        rw [if_pos hc, ih.2 ⟨rfl, ht⟩, Char.ofNat_toNat]
        rfl

/-- **A text is what some bytes stand for if and only if the encoding has its characters.** -/
theorem exists_decode_iff {e : Encoding} {t : Text} : (∃ bytes, decode e bytes = .ok t) ↔ ∀ c ∈ t, e.Has c := by
  cases e with
  | utf8 => exact ⟨fun _ _ _ => trivial, fun _ => exists_decode t⟩
  | ascii =>
    constructor
    · rintro ⟨bytes, h⟩
      exact (asciiFrom_eq_ok_iff.1 h).2
    · intro h
      have hbytes : ∀ n ∈ t.map Char.toNat, n < 256 := fun n hn => by
        obtain ⟨c, hc, rfl⟩ := List.mem_map.1 hn
        exact Nat.lt_trans (h c hc) (by decide)
      refine ⟨(t.map Char.toNat).map UInt8.ofNat, ?_⟩
      simp only [decode, map_toNat_ofNat hbytes]
      exact asciiFrom_eq_ok_iff.2 ⟨rfl, h⟩
  | latin1 =>
    constructor
    · rintro ⟨bytes, h⟩ c hc
      obtain rfl := Except.ok.inj h
      obtain ⟨n, hn, rfl⟩ := List.mem_map.1 hc
      obtain ⟨b, -, rfl⟩ := List.mem_map.1 hn
      have hb : (Char.ofNat b.toNat).toNat < 256 := by
        rw [toNat_ofNat_of_lt b.toNat_lt]
        exact b.toNat_lt
      exact hb
    · intro h
      have hbytes : ∀ n ∈ t.map Char.toNat, n < 256 := fun n hn => by
        obtain ⟨c, hc, rfl⟩ := List.mem_map.1 hn
        exact h c hc
      refine ⟨(t.map Char.toNat).map UInt8.ofNat, ?_⟩
      simp only [decode, map_toNat_ofNat hbytes]
      rw [List.map_map]
      exact congrArg _ ((List.map_congr_left fun c _ => Char.ofNat_toNat c).trans (List.map_id t))

end GameSource
