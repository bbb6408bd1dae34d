import GameSource.Proofs.Define.Spelling
/-!
# Tables of printed definitions

A source text that is a list of defines and enums, printed one behind the other, gives the table of these: nothing is
taken out of it (`Prints.bare`), each definition is read back and nothing between them (`scan_prints`), and the first
expression of each name stands (`ofSource_prints`).
-/
namespace GameSource

/-! ## Printing -/

/-- A define, or an enum with its elements. -/
inductive PrintedDefinition where
  | define (name value : Text)
  | enumeration (elements : List EnumElement)
  deriving DecidableEq, Repr

/-- The names that a definition gives, with their expressions. -/
def PrintedDefinition.elements : PrintedDefinition → List (Text × Text)
  | define name value => [(name, value)]
  | enumeration es => es.mapIdx fun i e => (e.name, e.expression (es.take i))

/-- The text may be the value of a define. -/
structure IsValue (t : Text) : Prop where
  trimmed : Text.trim t = t
  bare : Bare t
  newline : '\n' ∉ t

/-- What stands between `enum` and the opening brace: white space, and a tag in it or not. -/
inductive PrintsTag : Text → Prop where
  | none {gap : Text} (hg : ∀ c ∈ gap, isSpace c) : PrintsTag gap
  | some {before tag behind : Text} (hb : before ≠ []) (hbefore : ∀ c ∈ before, isSpace c) (ht : IsName tag)
      (hbehind : ∀ c ∈ behind, isSpace c) : PrintsTag (before ++ (tag ++ behind))

/-- The text is these definitions, one behind the other, with any white space before each of them and at the end.  A
define fills the rest of its line, and a gap parts its name from a value that is not empty. -/
inductive Prints : List PrintedDefinition → Text → Prop where
  | nil : Prints [] []
  | blank {ds : List PrintedDefinition} {c : Char} {t : Text} (hc : isSpace c) (h : Prints ds t) : Prints ds (c :: t)
  | define {ds : List PrintedDefinition} {before name between value behind rest : Text} (hbefore : IsGap before)
      (hn : IsName name) (hbetween : IsGap between ∨ between = [] ∧ value = []) (hv : IsValue value)
      (hbehind : ∀ c ∈ behind, isInlineSpace c) (h : Prints ds rest) :
      Prints (.define name value :: ds)
        ('#' :: ("define".toList ++ (before ++ (name ++ (between ++ value ++ behind ++ '\n' :: rest)))))
  | enumeration {ds : List PrintedDefinition} {es : List EnumElement} {tag body rest : Text} (ht : PrintsTag tag)
      (hb : PrintsBody es body) (h : Prints ds rest) :
      Prints (.enumeration es :: ds) ("enum".toList ++ (tag ++ '\x7b' :: (body ++ '\x7d' :: ';' :: rest)))

/-! ## Reading back -/

/-- No definition begins at a character that is neither a number sign nor an `e`. -/
theorem definition?_eq_none {before : Option Char} {c : Char} {t : Text} (hsign : c ≠ '#') (he : c ≠ 'e') :
    definition? before (c :: t) = none := by
  have hdefine : defineDirective? (c :: t) = none := by
    unfold defineDirective?
    split
    · rename_i heq
      cases heq
      exact absurd rfl hsign
    · rfl
  have hafter : Text.after? "enum".toList (c :: t) = none := if_neg he.symm
  have henum : enumBody? before (c :: t) = none := by
    rw [enumBody?, hafter]
    rfl
  rw [definition?, hdefine]
  simp only [henum, Option.map_none]

theorem definition?_blank {before : Option Char} {c : Char} {t : Text} (hc : isSpace c) :
    definition? before (c :: t) = none :=
  definition?_eq_none (ne_of_isSpace hc (by decide)) (ne_of_isSpace hc (by decide))

/-- **A define is read back** up to the end of its line. -/
theorem definition?_define {start : Option Char} {before name between value behind rest : Text} (hbefore : IsGap before)
    (hn : IsName name) (hbetween : IsGap between ∨ between = [] ∧ value = []) (hv : IsValue value)
    (hbehind : ∀ c ∈ behind, isInlineSpace c) :
    definition? start ('#' :: ("define".toList ++ (before ++ (name ++ (between ++ value ++ behind ++ '\n' :: rest))))) =
      some (.define name value, '\n' :: rest) := by
  have hspaces : ∀ c ∈ between, isInlineSpace c := by
    rcases hbetween with h | ⟨rfl, -⟩
    · exact h.2
    · simp
  have hhead : ∀ c ∈ (between ++ value ++ behind).head?, isInlineSpace c := by
    intro c hc
    rcases hbetween with h | ⟨rfl, rfl⟩
    · obtain ⟨g, gap, rfl⟩ := List.exists_cons_of_ne_nil h.1
      obtain rfl : g = c := by simpa using hc
      exact h.2 g (by simp)
    · exact hbehind c (List.mem_of_mem_head? hc)
  have hline : '\n' ∉ between ++ value ++ behind := by
    rw [List.mem_append, List.mem_append]
    rintro ((h | h) | h)
    · exact (isInlineSpace_iff.1 (hspaces _ h)).1 rfl
    · exact hv.newline h
    · exact (isInlineSpace_iff.1 (hbehind _ h)).1 rfl
  have htrim := trim_around hv.trimmed (fun c hc => (isInlineSpace_iff.1 (hspaces c hc)).2)
    fun c hc => (isInlineSpace_iff.1 (hbehind c hc)).2
  have hdirective : Directive name (Text.trim (between ++ value ++ behind))
      ('#' :: ([] ++ ("define".toList ++ (before ++ (name ++ (between ++ value ++ behind)))))) :=
    .mk (by simp) hbefore hn hhead hline
  rw [htrim] at hdirective
  exact definition?_define_iff.2 (defineDirective?_eq_some_iff.2 ⟨_, by simp, hdirective, by simp⟩)

/-- **An enum is read back** up to the semicolon behind it. -/
theorem definition?_enumeration {start : Option Char} {tag body rest : Text} (hstart : start.any isWord = false)
    (ht : PrintsTag tag) (hbody : ∀ c ∈ body, c ≠ '\x7d') :
    definition? start ("enum".toList ++ (tag ++ '\x7b' :: (body ++ '\x7d' :: ';' :: rest))) =
      some (.enumeration body, ';' :: rest) := by
  have htag : (∀ c ∈ tag, (c != '\x7b' && c != ';') = true) ∧ ∀ c ∈ tag.head?, isWord c = false := by
    have hblank {c : Char} (hc : isSpace c) : (c != '\x7b' && c != ';') = true := by
      simp [ne_of_isSpace hc (by decide : isSpace '\x7b' = false), ne_of_isSpace hc (by decide : isSpace ';' = false)]
    have hname {c : Char} (hc : isWord c) : (c != '\x7b' && c != ';') = true := by
      simp [ne_of_isWord hc (by decide : isWord '\x7b' = false), ne_of_isWord hc (by decide : isWord ';' = false)]
    cases ht with
    | none hg => exact ⟨fun c hc => hblank (hg c hc), fun c hc => isWord_of_isSpace (hg c (List.mem_of_mem_head? hc))⟩
    | @some before tag behind hb hbefore ht hbehind =>
      simp only [List.forall_mem_append]
      refine ⟨⟨fun c hc => hblank (hbefore c hc), fun c hc => hname (ht.2 c hc), fun c hc => hblank (hbehind c hc)⟩, ?_⟩
      obtain ⟨g, gap, rfl⟩ := List.exists_cons_of_ne_nil hb
      intro c hc
      obtain rfl : g = c := by simpa using hc
      exact isWord_of_isSpace (hbefore g (by simp))
  have hbraced : BracedEnum tag body ("enum".toList ++ (tag ++ '\x7b' :: (body ++ ['\x7d']))) :=
    .mk htag.2 (fun c hc => by simpa using htag.1 c hc) fun hmem => hbody _ hmem rfl
  exact definition?_enumeration_iff.2 (enumBody?_eq_some_iff.2 ⟨hstart, tag, _, by simp, hbraced⟩)

/-- **The definitions of a printed text are read back**, and nothing else is. -/
theorem scan_prints {ds : List PrintedDefinition} {t : Text} (h : Prints ds t) : ∀ (i : Nat) (start : Option Char),
    start.any isWord = false →
    ((scanFrom definition? 0 i start t).map Prod.snd).flatMap Definition.elements =
      ds.flatMap PrintedDefinition.elements := by
  induction h with
  | nil => exact fun _ _ _ => rfl
  | blank hc _ ih =>
    intro i start _
    rw [scanFrom_keep _ (definition?_blank hc)]
    exact ih _ _ (isWord_of_isSpace hc)
  | @define ds before name between value behind rest hbefore hn hbetween hv hbehind _ ih =>
    -- Scanning goes on at the line feed, where no definition begins whatever stands before it.
    intro i start _
    have hread := @definition?_define start before name between value behind rest hbefore hn hbetween hv hbehind
    have hcut : '#' :: ("define".toList ++ (before ++ (name ++ (between ++ value ++ behind ++ '\n' :: rest)))) =
        '#' :: ("define".toList ++ (before ++ (name ++ (between ++ value ++ behind)))) ++ '\n' :: rest := by simp
    rw [hcut] at hread ⊢
    obtain ⟨j, hscan⟩ := scanFrom_piece _ (List.cons_ne_nil _ _) hread (fun _ => definition?_blank (by decide)) i
    rw [hscan, List.map_cons, List.flatMap_cons, List.flatMap_cons, ih j (some '\n') (by decide)]
    rfl
  | @enumeration ds es tag body rest ht hb _ ih =>
    intro i start hstart
    have hread := @definition?_enumeration start tag body rest hstart ht fun c hc => (hb.ne_of_mem c hc).1
    have hcut : "enum".toList ++ (tag ++ '\x7b' :: (body ++ '\x7d' :: ';' :: rest)) =
        "enum".toList ++ (tag ++ '\x7b' :: (body ++ ['\x7d'])) ++ ';' :: rest := by simp
    rw [hcut] at hread ⊢
    obtain ⟨j, hscan⟩ := scanFrom_piece _ (List.append_ne_nil_of_left_ne_nil (by decide) _) hread
      (fun _ => definition?_eq_none (by decide) (by decide)) i
    rw [hscan, List.map_cons, List.flatMap_cons, List.flatMap_cons, ih j (some ';') (by decide)]
    exact congrArg (· ++ _) (enumElements_body hb)

/-! ## The table -/

theorem PrintsTag.quiet {t : Text} (h : PrintsTag t) : ∀ c ∈ t, isQuiet c := by
  cases h with
  | none hg => exact fun c hc => isQuiet_of_isSpace (hg c hc)
  | some _ hbefore ht hbehind =>
    simp only [List.forall_mem_append]
    exact ⟨fun c hc => isQuiet_of_isSpace (hbefore c hc), fun c hc => isQuiet_of_isWord (ht.2 c hc),
      fun c hc => isQuiet_of_isSpace (hbehind c hc)⟩

/-- **Nothing is taken out of a printed text.** -/
theorem Prints.bare {ds : List PrintedDefinition} {t : Text} (h : Prints ds t) : Bare t := by
  have hinline {g : Text} (hg : ∀ c ∈ g, isInlineSpace c) : ∀ c ∈ g, isSpace c := fun c hc =>
    (isInlineSpace_iff.1 (hg c hc)).2
  induction h with
  | nil => exact .nil
  | blank hc _ ih => exact ih.quiet_cons (isQuiet_of_isSpace hc)
  | @define ds before name between value behind rest hbefore hn hbetween hv hbehind _ ih =>
    have hspaces : ∀ c ∈ between, isSpace c := by
      rcases hbetween with h | ⟨rfl, -⟩
      · exact hinline h.2
      · simp
    have hend := (ih.quiet_cons (by decide : isQuiet '\n')).blanks_append (hinline hbehind)
    have hhead := head?_quiet rest (fun c hc => isQuiet_of_isSpace (hinline hbehind c hc)) (by decide : isQuiet '\n')
    have hname := ((hv.bare.append hend hhead).blanks_append hspaces).word_append hn.2
    have hdefine : ∀ c ∈ "define".toList, isQuiet c := List.all_eq_true.1 rfl
    rw [List.append_assoc, List.append_assoc]
    exact ((hname.blanks_append (hinline hbefore.2)).quiet_append hdefine).quiet_cons (by decide)
  | @enumeration ds es tag body rest ht hb _ ih =>
    have hend := (ih.quiet_cons (by decide : isQuiet ';')).quiet_cons (by decide : isQuiet '\x7d')
    have hbody := hb.bare (by decide) hend
    have henum : ∀ c ∈ "enum".toList, isQuiet c := List.all_eq_true.1 rfl
    exact ((hbody.quiet_cons (by decide : isQuiet '\x7b')).quiet_append ht.quiet).quiet_append henum

/-- The first expression of each name stands, in the order in which the names come. -/
theorem DefineTable.foldl_add (filter : DefineFilter) : ∀ (es : List (Text × Text)) (table : DefineTable),
    (es.foldl (fun table e => table.add filter e.1 e.2) table).expressions =
      table.expressions ++ (es.filter fun e => !table.expressions.contains e.1).eraseDupsBy fun e d => e.1 == d.1
  | [], table => by simp
  | e :: es, table => by
    rw [List.foldl_cons, foldl_add filter es]
    cases hknown : table.expressions.contains e.1 with
    | true => simp [add, hknown]
    | false =>
      have hadd : (table.add filter e.1 e.2).expressions = table.expressions ++ [e] := by simp [add, hknown]
      rw [hadd, List.filter_cons_of_pos (by simp [hknown]), List.eraseDupsBy_cons, List.append_assoc,
        List.singleton_append, List.filter_filter]
      congr 3
      refine List.filter_congr fun d _ => ?_
      rw [Entries.contains, Entries.contains, Entries.find?_append]
      cases hd : table.expressions.find? d.1 with
      | some v => simp
      | none =>
        by_cases hname : e.1 = d.1
        · simp [Entries.find?, hname]
        · simp [Entries.find?, hname, Ne.symm hname]

/-- **A printed text gives the table of its definitions**: of each name the first expression, in the order of the
text. -/
theorem ofSource_prints {ds : List PrintedDefinition} {t : Text} (h : Prints ds t) (filter : DefineFilter) :
    (DefineTable.ofSource filter t).expressions =
      (ds.flatMap PrintedDefinition.elements).eraseDupsBy fun e d => e.1 == d.1 := by
  rw [DefineTable.ofSource, h.bare.bareText_eq, DefineTable.ofPrepared, scan, scanAt, scan_prints h 0 none rfl,
    DefineTable.foldl_add]
  have hall : ((ds.flatMap PrintedDefinition.elements).filter fun e =>
      !Entries.contains e.1 ([] : Entries Text Text)) = ds.flatMap PrintedDefinition.elements :=
    List.filter_eq_self.2 fun _ _ => rfl
  rw [hall]
  rfl

/-- An enum with a tag, an initializer and a trailing comma, between two defines of one name. -/
theorem ofSource_prints_enumBetween :
    (DefineTable.ofSource (.names [])
        "#define A 1 /2\nenum T \x7b X,\n Y = A|8,Z, \x7d;\n#define A \n".toList).expressions =
      [("A".toList, "1 /2".toList), ("X".toList, "((0)+0)".toList), ("Y".toList, "A|8".toList),
        ("Z".toList, "((A|8)+1)".toList)] := by
  have hname (c : Char) (hc : isWord c) : IsName [c] := ⟨by simp, by simpa using hc⟩
  have hspace : ∀ c ∈ [' '], isSpace c := List.all_eq_true.1 rfl
  have hgap : IsGap [' '] := ⟨by simp, List.all_eq_true.1 rfl⟩
  have hnone : ∀ c ∈ ([] : Text), isSpace c := by simp
  have hvalue : IsValue "1 /2".toList := ⟨by decide, ⟨by decide, by decide, by decide⟩, by decide⟩
  have hinitializer : IsInitializer "A|8".toList :=
    ⟨by decide, by decide, ⟨by decide, by decide, by decide⟩, by simp⟩
  have hplain (c : Char) (hc : isWord c) : PrintsElement ⟨[c], none⟩ [c] := .plain (hname c hc) hnone
  have hy : PrintsElement ⟨['Y'], some "A|8".toList⟩ "Y = A|8".toList :=
    .initialized (hname 'Y' rfl) hinitializer hspace hspace hnone
  have hz : PrintsBody [⟨['Z'], none⟩] "Z, ".toList := .cons (hplain 'Z' rfl) (.blank rfl .nil)
  have hyz : PrintsBody [⟨['Y'], some "A|8".toList⟩, ⟨['Z'], none⟩] "\n Y = A|8,Z, ".toList :=
    .blank rfl (.blank rfl (.cons hy hz))
  have hbody : PrintsBody [⟨['X'], none⟩, ⟨['Y'], some "A|8".toList⟩, ⟨['Z'], none⟩] " X,\n Y = A|8,Z, ".toList :=
    .blank rfl (.cons (hplain 'X' rfl) hyz)
  have htag : PrintsTag " T ".toList := .some (by simp) hspace (hname 'T' rfl) hspace
  have hdefine {ds : List PrintedDefinition} {value rest : Text} (hv : IsValue value) (h : Prints ds rest) :
      Prints (.define ['A'] value :: ds)
        ('#' :: ("define".toList ++ ([' '] ++ (['A'] ++ ([' '] ++ value ++ [] ++ '\n' :: rest))))) :=
    .define hgap (hname 'A' rfl) (.inl hgap) hv (by simp) h
  have hlast : Prints [.define ['A'] []] "\n#define A \n".toList := .blank rfl (hdefine ⟨rfl, .nil, by simp⟩ .nil)
  have hprints : Prints [.define ['A'] "1 /2".toList, .enumeration _, .define ['A'] []]
      "#define A 1 /2\nenum T \x7b X,\n Y = A|8,Z, \x7d;\n#define A \n".toList :=
    hdefine hvalue (.enumeration htag hbody hlast)
  rw [ofSource_prints hprints]
  decide

end GameSource
