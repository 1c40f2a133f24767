import Mathlib.Data.List.Forall2
import Storyline.Proofs.Ron.Numbers
import Storyline.Proofs.Ron.Quoted

/-!
# Values read back

A reader reads a text back if it takes all of it off the front, wherever the text stands as a
value, and gives the value that it stands for (`Ron.Reads`). Strings, truth values and numbers are
read back at once; for the forms that are put together from other values, reading back passes from
the parts to the whole (`Ron.Reads.optional`, `Ron.reads_list`, `Ron.reads_map`,
`Ron.reads_record`).

What the last three have in common is a block of lines between two marks, one line for each part
with a comma behind it. It is read by `Ron.enclosed`, whatever the indentation is, as long as no
part begins like a blank, a comment or the closing mark (`Ron.enclosed_blockBody`), and all three
are instances of `Ron.reads_block`.
-/

namespace Storyline.Ron

/-! ### Blanks -/

/-- The marks with which no value begins: those of comments, of the end of a value, and of the end
of a block. -/
def closingMarks : List Char := ['/', ',', ')', ']', '\x7d']

/-- Whether a value can begin with a character. -/
def beginsValue (c : Char) : Bool := !isBlank c && !closingMarks.contains c

/-- The text begins like a value. -/
def Opens (cs : List Char) : Prop := cs.head?.any beginsValue = true

instance (cs : List Char) : Decidable (Opens cs) := inferInstanceAs (Decidable (_ = true))

/-- What opens a value is a character that is neither a blank nor a closing mark. -/
theorem Opens.exists_eq_cons {cs : List Char} (h : Opens cs) :
    ∃ c rest, cs = c :: rest ∧ isBlank c = false ∧ c ∉ closingMarks := by
  rcases cs with - | ⟨c, rest⟩
  · cases h
  · have hc : beginsValue c = true := h
    refine ⟨c, rest, rfl, ?_⟩
    simpa [beginsValue] using hc

theorem skipBlanks_blank {c : Char} (hc : isBlank c = true) (cs : List Char) :
    skipBlanks (c :: cs) = skipBlanks cs := by
  have hslash : c ≠ '/' := by
    rintro rfl
    exact absurd hc (by decide)
  rw [skipBlanks, Gap.skip, if_pos hc]
  · rfl
  · exact fun _ heq ↦ absurd heq hslash
  · exact fun _ heq ↦ absurd heq hslash

theorem skipBlanks_token {c : Char} (hc : isBlank c = false) (hslash : c ≠ '/') (cs : List Char) :
    skipBlanks (c :: cs) = some (c :: cs) := by
  rw [skipBlanks, Gap.skip, if_neg (by simp [hc]), if_neg hslash]
  · exact fun _ heq ↦ absurd heq hslash
  · exact fun _ heq ↦ absurd heq hslash

theorem skipBlanks_replicate (n : Nat) (cs : List Char) :
    skipBlanks (List.replicate n ' ' ++ cs) = skipBlanks cs := by
  induction n with
  | zero => rfl
  | succ n ih => rw [List.replicate_succ, List.cons_append, skipBlanks_blank (by decide), ih]

/-- Nothing is skipped before a value. -/
theorem Opens.skipBlanks {cs : List Char} (h : Opens cs) (rest : List Char) :
    Ron.skipBlanks (cs ++ rest) = some (cs ++ rest) := by
  obtain ⟨c, cs, rfl, hblank, hmark⟩ := h.exists_eq_cons
  refine skipBlanks_token hblank ?_ _
  rintro rfl
  exact hmark (by decide)

theorem Opens.append {cs : List Char} (h : Opens cs) (rest : List Char) : Opens (cs ++ rest) := by
  rcases cs with - | ⟨c, cs⟩
  · cases h
  · exact h

/-- A value does not begin with a closing mark. -/
theorem Opens.head_ne {cs : List Char} (h : Opens cs) (rest : List Char) {mark : Char}
    (hmark : mark ∈ closingMarks) : (cs ++ rest).head? ≠ some mark := by
  obtain ⟨c, cs, rfl, -, hc⟩ := h.exists_eq_cons
  intro heq
  cases heq
  exact hc hmark

/-! ### Reading back -/

/-- Wherever the text stands as a value, with so many levels left to be opened, the reader takes
all of it and gives the value. -/
structure Reads {α : Type} (r : Reader α) (levels : Nat) (text : List Char) (a : α) : Prop where
  /-- The text begins like a value. -/
  opens : Opens text
  /-- The reader takes it and nothing else. -/
  takes : ∀ depth, levels ≤ depth → ∀ rest, Delimited rest →
    r { depth } (text ++ rest) = some (a, rest)

/-- What is read at some depth is read where more levels are left. -/
theorem Reads.mono {α : Type} {r : Reader α} {levels levels' : Nat} {text : List Char} {a : α}
    (h : Reads r levels text a) (hle : levels ≤ levels') : Reads r levels' text a where
  opens := h.opens
  takes depth hdepth := h.takes depth (Nat.le_trans hle hdepth)

/-! ### Single values -/

/-- A text is read back as it was written. -/
theorem reads_string (s : String) (depth : Nat) :
    Reads string 0 (Writer.string s depth).toList s where
  opens := by
    have htext : (Writer.string s depth).toList =
        '"' :: (s.toList.flatMap Text.escapeAnyQuote ++ ['"']) := by
      simp [Writer.string, Text.quoteBoth]
    rw [htext]
    rfl
  takes _ _ rest _ := string?_quoteBoth s rest

theorem reads_bool (b : Bool) (depth : Nat) : Reads bool 0 (Writer.bool b depth).toList b where
  opens := by
    change Opens (if b then "true" else "false").toList
    revert b
    decide +kernel
  takes _ _ rest hrest := by
    have hcontinues := hrest.continuesName
    rcases b with - | - <;>
      simp [Writer.bool, bool, keyword?, Text.literal?, Option.filter, hcontinues]

theorem beginsValue_of_isDigit {c : Char} (hc : c.isDigit = true) : beginsValue c = true := by
  have hrange : 48 ≤ c.toNat ∧ c.toNat ≤ 57 := by
    simpa [Char.isDigit, UInt32.le_iff_toNat_le] using hc
  have hblank : isBlank c = false := by
    simp [isBlank]
    omega
  have hmark : c ∉ closingMarks := by
    intro hmark
    have hall : closingMarks.all (!·.isDigit) = true := by decide
    exact isDigit_ne hc (by simpa using List.all_eq_true.mp hall c hmark) rfl
  simp [beginsValue, hblank, hmark]

theorem reads_int32 (n : Int32) (depth : Nat) :
    Reads int32 0 (Writer.int32 n depth).toList n where
  opens := by
    obtain ⟨d, ds, hcons, hd, -⟩ := exists_toDigits_eq_cons n.toInt.natAbs
    rw [Writer.int32, Numeral.plain, Numeral.decimal, hcons]
    split
    · rw [String.toList_append]
      rfl
    · rw [String.toList_ofList]
      exact beginsValue_of_isDigit hd
  takes _ _ rest hrest := int32?_plain hrest n

/-- The text of a number is read as the number that it stands for. -/
theorem reads_float64 {x y : Binary64} (hxy : Binary.read? (Writer.float x 0).toList = some y)
    (depth : Nat) : Reads float64 0 (Writer.float x depth).toList y where
  opens := by
    change Opens (Writer.float x 0).toList
    rcases float_cases x with ⟨word, hword, htext⟩ | ⟨negative, c, cs, htext, hc, -⟩
    · have hall : ∀ word ∈ floatWords, word.toList.head?.any beginsValue = true := by
        decide +kernel
      rw [htext]
      exact hall word hword
    · rw [htext]
      rcases negative with - | -
      · exact beginsValue_of_isDigit hc
      · rfl
  takes _ _ rest hrest := by
    have hword : "f64".toList = ['f', '6', '4'] := by decide +kernel
    exact float?_float hrest hxy hword (by decide)

/-! ### Optional values -/

variable {α : Type} {r : Reader α} {levels : Nat}

/-- An absent value is read back as absent. -/
theorem reads_none (w : Writer α) (depth : Nat) :
    Reads (option r) levels (Writer.option w none depth).toList none where
  opens := by
    change Opens "None".toList
    decide +kernel
  takes _ _ rest hrest := by
    have hkeyword : keyword? "None" ("None".toList ++ rest) = some rest := by
      rw [keyword?, literal?_append, Option.filter_some, hrest.continuesName]
      rfl
    change option r _ ("None".toList ++ rest) = _
    rw [option, hkeyword]

/-- An optional value is read back if the value is. -/
theorem Reads.optional {w : Writer α} {a b : α} {depth : Nat}
    (h : Reads r levels (w a depth).toList b) :
    Reads (option r) (levels + 1) (Writer.option w (some a) depth).toList (some b) where
  opens := by
    rw [Writer.option, String.toList_append, String.toList_append]
    rfl
  takes := by
    rintro (- | d) hle rest hrest
    · omega
    have htext : (Writer.option w (some a) depth).toList ++ rest =
        "Some".toList ++ '(' :: ((w a depth).toList ++ ')' :: rest) := by
      simp [Writer.option]
    have hnone (cs : List Char) : keyword? "None" ("Some".toList ++ cs) = none := by
      simp [keyword?, Text.literal?]
    have hsome (cs : List Char) : keyword? "Some" ("Some".toList ++ '(' :: cs) =
        some ('(' :: cs) := by
      have hcontinues : continuesName ('(' :: cs) = false := by
        rw [continuesName, List.head?_cons, Option.any_some]
        decide +kernel
      rw [keyword?, literal?_append, Option.filter_some, hcontinues]
      rfl
    have hopening (cs : List Char) : skipBlanks ('(' :: cs) = some ('(' :: cs) :=
      skipBlanks_token (by decide) (by decide) cs
    have hclosing : comma? (')' :: rest) = some (false, ')' :: rest) := by
      rw [comma?, skipBlanks_token (by decide) (by decide)]
      rfl
    have hvalue := h.takes d (by omega) (')' :: rest) (.parenthesis rest)
    rw [htext, option, hnone, hsome]
    simp only [hopening, Option.bind_eq_bind, Option.bind_some, h.opens.skipBlanks, deeper, hvalue,
      hclosing]
    rfl

/-! ### Blocks of lines -/

/-- A text on a line of its own, with a comma behind it. -/
def line (depth : Nat) (text : List Char) : List Char :=
  List.replicate (4 * (depth + 1)) ' ' ++ (text ++ [',', '\n'])

/-- What stands between the marks of a block: a line for each text, and the indentation of the
closing mark. -/
def blockBody (depth : Nat) (texts : List (List Char)) : List Char :=
  if texts.isEmpty then []
  else '\n' :: (texts.flatMap (line depth) ++ List.replicate (4 * depth) ' ')

/-- A block is an opening mark, its indented parts, and a closing mark. -/
theorem toList_block (opening closing : String) (parts : List (Nat → String)) (depth : Nat) :
    (Writer.block opening closing parts depth).toList =
      opening.toList ++ (blockBody depth (parts.map fun part ↦ (part (depth + 1)).toList) ++
        closing.toList) := by
  rw [Writer.block, blockBody, List.isEmpty_map]
  split
  · simp
  · simp [Writer.indent, String.toList_join, List.flatMap_map, line]

/-- What is left of a block: lines, the indentation, the closing mark, and what follows. -/
def remainder (depth : Nat) (texts : List (List Char)) (close : Char) (rest : List Char) :
    List Char :=
  texts.flatMap (line depth) ++ (List.replicate (4 * depth) ' ' ++ close :: rest)

section Block

variable {close : Char} {element : List Char → Option (α × List Char)} {texts : List (List Char)}
  {as : List α} (depth : Nat)

/-- An element of a block is read up to its comma. -/
structure ReadsElement (element : List Char → Option (α × List Char)) (text : List Char) (a : α) :
    Prop where
  /-- The text begins like a value. -/
  opens : Opens text
  /-- It is taken up to the comma. -/
  takes : ∀ rest, element (text ++ ',' :: rest) = some (a, ',' :: rest)

theorem opens_of_readsElement (h : List.Forall₂ (ReadsElement element) texts as) :
    ∀ text ∈ texts, Opens text := by
  induction h with
  | nil => exact fun text hmem ↦ absurd hmem List.not_mem_nil
  | cons hfirst _ ih => exact List.forall_mem_cons.mpr ⟨hfirst.opens, ih⟩

/-- Behind the last part of a block stands its closing mark. -/
theorem skipBlanks_remainder_nil (hclose : close ∈ closingMarks) (hslash : close ≠ '/')
    (rest : List Char) : skipBlanks (remainder depth [] close rest) = some (close :: rest) := by
  have hblank : isBlank close = false := by
    have hall : closingMarks.all (!isBlank ·) = true := by decide
    simpa using List.all_eq_true.mp hall close hclose
  rw [remainder, List.flatMap_nil, List.nil_append, skipBlanks_replicate,
    skipBlanks_token hblank hslash]

/-- Behind a part of a block stands the next one. -/
theorem skipBlanks_remainder_cons {text : List Char} (h : Opens text) (rest : List Char) :
    skipBlanks (remainder depth (text :: texts) close rest) =
      some (text ++ ',' :: '\n' :: remainder depth texts close rest) := by
  have htext : remainder depth (text :: texts) close rest = List.replicate (4 * (depth + 1)) ' ' ++
      (text ++ ',' :: '\n' :: remainder depth texts close rest) := by
    simp [remainder, line]
  rw [htext, skipBlanks_replicate, h.skipBlanks]

/-- Blanks in front of what is left of a block are skipped once and for all. -/
theorem exists_skipBlanks_remainder (hclose : close ∈ closingMarks) (hslash : close ≠ '/')
    (h : ∀ text ∈ texts, Opens text) (rest : List Char) :
    ∃ cs, skipBlanks (remainder depth texts close rest) = some cs ∧ skipBlanks cs = some cs := by
  rcases texts with - | ⟨text, texts⟩
  · refine ⟨close :: rest, skipBlanks_remainder_nil depth hclose hslash rest, ?_⟩
    rw [← skipBlanks_remainder_nil 0 hclose hslash rest]
    rfl
  · have hopens := h text List.mem_cons_self
    exact ⟨_, skipBlanks_remainder_cons depth hopens rest, hopens.skipBlanks _⟩

/-- The elements of a block are read line by line. -/
theorem elements_remainder (hclose : close ∈ closingMarks) (hslash : close ≠ '/')
    (h : List.Forall₂ (ReadsElement element) texts as) (rest : List Char) {fuel : Nat}
    (hfuel : texts.length < fuel) {cs : List Char}
    (hcs : skipBlanks cs = skipBlanks (remainder depth texts close rest)) :
    elements close element fuel true cs = some (as, close :: rest) := by
  -- the reader skips blanks before each element, so `cs` may have lost those in front already
  induction h generalizing fuel cs with
  | nil =>
    obtain ⟨fuel, rfl⟩ := Nat.exists_eq_add_of_lt hfuel
    rw [elements, hcs, skipBlanks_remainder_nil depth hclose hslash]
    simp
  | @cons text a texts as hfirst hrest ih =>
    obtain ⟨fuel, rfl⟩ : ∃ n, fuel = n + 1 := ⟨fuel - 1, by omega⟩
    have hopens := opens_of_readsElement hrest
    obtain ⟨ds, hds, hskipped⟩ :=
      exists_skipBlanks_remainder depth hclose hslash hopens rest
    have hcomma : comma? (',' :: '\n' :: remainder depth texts close rest) = some (true, ds) := by
      rw [comma?, skipBlanks_token (by decide) (by decide)]
      simp only [Option.bind_eq_bind, Option.bind_some, skipBlanks_blank (c := '\n') (by decide),
        hds]
      rfl
    have hlater := ih (Nat.lt_of_succ_lt_succ hfuel) (hskipped.trans hds.symm)
    rw [elements, hcs, skipBlanks_remainder_cons depth hfirst.opens]
    simp only [Option.bind_eq_bind, Option.bind_some, if_neg (hfirst.opens.head_ne _ hclose),
      Bool.not_true, Bool.false_eq_true, if_false, hfirst.takes, hcomma, hlater]
    rfl

/-- There are no more lines than characters in them. -/
theorem length_le_length_flatMap_line (depth : Nat) (texts : List (List Char)) :
    texts.length ≤ (texts.flatMap (line depth)).length := by
  induction texts with
  | nil => exact Nat.zero_le _
  | cons text texts ih =>
    rw [List.flatMap_cons, List.length_append, line, List.length_append, List.length_append]
    simp only [List.length_cons]
    omega

/-- A block is read up to its closing mark and with it. -/
theorem enclosed_blockBody (hclose : close ∈ closingMarks) (hslash : close ≠ '/')
    (h : List.Forall₂ (ReadsElement element) texts as) (rest : List Char) :
    enclosed close element (blockBody depth texts ++ close :: rest) = some (as, rest) := by
  have hskip : skipBlanks (blockBody depth texts ++ close :: rest) =
      skipBlanks (remainder depth texts close rest) := by
    rcases texts with - | ⟨text, texts⟩
    · rw [remainder, List.flatMap_nil, List.nil_append, skipBlanks_replicate]
      rfl
    · rw [blockBody, if_neg (by simp), List.cons_append, skipBlanks_blank (by decide), remainder,
        List.append_assoc]
  have hlength : texts.length < (blockBody depth texts ++ close :: rest).length + 1 := by
    have hlines := length_le_length_flatMap_line depth texts
    rw [blockBody, List.length_append]
    split
    · rename_i hempty
      rw [List.isEmpty_iff.mp hempty]
      simp
    · simp only [List.length_cons, List.length_append]
      omega
  rw [enclosed, upTo, elements_remainder depth hclose hslash h rest hlength hskip]
  simp only [Option.bind_eq_bind, Option.bind_some, literal?_singleton]
  rfl

/-- A reader that opens a block at its mark, and puts together what stands in it, reads the block
back if the elements are. Reading an element opens two levels. -/
theorem reads_block {β : Type} {r : Reader β} (element : Nat → List Char → Option (α × List Char))
    (finish : List α → Option β) {opening : Char} {levels : Nat} {b : β}
    (hreader : ∀ d cs, r { depth := d + 2 } (opening :: cs) =
      (enclosed close (element d) cs).bind fun p ↦ (finish p.1).map fun b ↦ (b, p.2))
    (hopens : Opens [opening]) (hclose : close ∈ closingMarks) (hslash : close ≠ '/')
    (h : ∀ d, levels ≤ d → List.Forall₂ (ReadsElement (element d)) texts as)
    (hfinish : finish as = some b) :
    Reads r (levels + 2) (opening :: (blockBody depth texts ++ [close])) b where
  opens := hopens.append (blockBody depth texts ++ [close])
  takes := by
    rintro (- | - | d) hd rest -
    · omega
    · omega
    have helements := h d (by omega)
    rw [List.cons_append, List.append_assoc, List.singleton_append, hreader,
      enclosed_blockBody depth hclose hslash helements rest, Option.bind_some, hfinish]
    rfl

end Block

/-! ### Lists, maps and records -/

/-- In a block, what reads a value back reads the element back. -/
theorem Reads.element {text : List Char} {a : α} (h : Reads r levels text a) {d : Nat}
    (hd : levels ≤ d) : ReadsElement (r { depth := d }) text a where
  opens := h.opens
  takes rest := h.takes d hd (',' :: rest) (.comma rest)

/-- A list is read back if its items are. -/
theorem reads_list {w : Writer α} {as bs : List α} {depth : Nat}
    (h : List.Forall₂ (fun a b ↦ Reads r levels (w a (depth + 1)).toList b) as bs) :
    Reads (list r) (levels + 2) (Writer.list w as depth).toList bs := by
  have htext : (Writer.list w as depth).toList =
      '[' :: (blockBody depth (as.map fun a ↦ (w a (depth + 1)).toList) ++ [']']) := by
    simp [Writer.list, toList_block, List.map_map, Function.comp_def]
  rw [htext]
  refine reads_block depth (fun d ↦ r { depth := d }) some (fun d cs ↦ ?_) rfl (by decide)
    (by decide) (fun d hd ↦ ?_) rfl
  · rw [list, literal?_singleton]
    change enclosed ']' (r { depth := d }) cs = _
    rcases enclosed ']' (r { depth := d }) cs with - | ⟨bs, rest⟩ <;> rfl
  · rw [List.forall₂_map_left_iff]
    exact h.imp fun a b hab ↦ hab.element hd

/-- A key, a colon and a value are read back if the key is and the value is. -/
theorem pair_append {β γ : Type} {key : List Char → Option (β × List Char)}
    {value : β → List Char → Option (γ × List Char)} {keyText valueText rest : List Char} {k : β}
    {v : γ} (hkey : ∀ cs, key (keyText ++ ':' :: cs) = some (k, ':' :: cs))
    (hopens : Opens valueText) (hvalue : value k (valueText ++ rest) = some (v, rest)) :
    pair key value (keyText ++ ':' :: ' ' :: (valueText ++ rest)) = some (v, rest) := by
  rw [pair, hkey]
  simp only [Option.bind_eq_bind, Option.bind_some,
    skipBlanks_token (c := ':') (by decide) (by decide), literal?_singleton,
    skipBlanks_blank (c := ' ') (by decide), hopens.skipBlanks, hvalue]

/-- How an entry of a map is read: a string, a colon and a value. -/
def mapEntry (r : Reader α) (d : Nat) : List Char → Option ((String × α) × List Char) :=
  pair (string { depth := d }) fun key cs ↦ (r { depth := d } cs).map fun p ↦ ((key, p.1), p.2)

/-- An entry of a map is read back if its value is. -/
theorem readsElement_mapEntry {text : List Char} {a : α} (h : Reads r levels text a) {d : Nat}
    (hd : levels ≤ d) (key : String) (depth : Nat) :
    ReadsElement (mapEntry r d) ((Writer.string key depth).toList ++ ':' :: ' ' :: text)
      (key, a) where
  opens := (reads_string key depth).opens.append _
  takes rest := by
    have hkey (cs : List Char) : string { depth := d }
        ((Writer.string key depth).toList ++ ':' :: cs) = some (key, ':' :: cs) :=
      string?_quoteBoth key (':' :: cs)
    have hvalue := h.takes d hd (',' :: rest) (.comma rest)
    rw [mapEntry, List.append_assoc, List.cons_append, List.cons_append]
    refine pair_append hkey h.opens ?_
    rw [hvalue]
    rfl

/-- A map is read back, with the values that are read back of it, under the same keys. -/
theorem reads_map {w : Writer α} {m n : KeyMap α} {depth : Nat}
    (h : List.Forall₂ (fun e e' ↦ e.1 = e'.1 ∧ Reads r levels (w e.2 (depth + 1)).toList e'.2)
      m.entries n.entries) :
    Reads (map r) (levels + 2) (Writer.map w m depth).toList n := by
  let entryText (e : String × α) : List Char := (Writer.string e.1 (depth + 1)).toList ++
    ':' :: ' ' :: (w e.2 (depth + 1)).toList
  have htext : (Writer.map w m depth).toList =
      '\x7b' :: (blockBody depth (m.entries.map entryText) ++ ['\x7d']) := by
    simp [Writer.map, toList_block, List.map_map, Function.comp_def, entryText]
  rw [htext]
  refine reads_block depth (mapEntry r) (fun es ↦ some (KeyMap.ofList es)) (fun d cs ↦ ?_) rfl
    (by decide) (by decide) (fun d hd ↦ ?_) (congrArg some n.ofList_entries)
  · rw [map, literal?_singleton]
    change (enclosed '\x7d' (mapEntry r d) cs).bind _ = _
    rcases enclosed '\x7d' (mapEntry r d) cs with - | ⟨es, rest⟩ <;> rfl
  · rw [List.forall₂_map_left_iff]
    refine h.imp fun e e' ⟨hkey, hvalue⟩ ↦ ?_
    have hentry := readsElement_mapEntry hvalue hd e.1 (depth + 1)
    rw [hkey] at hentry
    simp only [entryText, hkey]
    exact hentry

/-- Whether a text is the name of a field that is read as a plain identifier: it has the characters
of one, and no opening of a quoted text is taken for its beginning. -/
def isPlainName (name : String) : Bool :=
  3 ≤ name.toList.length && name.toList.all Text.isIdentifierPart &&
    name.toList.head?.any (fun c ↦ beginsValue c && (c = '_' || Text.isIdentifierStart c)) &&
    ("r#" :: quoteOpenings).all fun opening ↦ !opening.toList.isPrefixOf name.toList

theorem opens_of_isPlainName {name : String} (h : isPlainName name = true) : Opens name.toList := by
  simp only [isPlainName, Bool.and_eq_true] at h
  have hstart := h.1.2
  rcases hname : name.toList.head? with - | c
  · rw [hname] at hstart
    cases hstart
  · rw [hname] at hstart
    rw [Opens, hname]
    exact ((Bool.and_eq_true _ _).mp hstart).1

/-- The name of a field is read up to the colon. -/
theorem name?_of_isPlainName {name : String} (h : isPlainName name = true) (rest : List Char) :
    name? (name.toList ++ ':' :: rest) = some (name, ':' :: rest) := by
  simp only [isPlainName, Bool.and_eq_true, decide_eq_true_eq, List.all_eq_true] at h
  obtain ⟨⟨⟨hlength, hparts⟩, hstart⟩, hopenings⟩ := h
  -- an opening has three characters at most, so it would have to stand in the name
  have hopening : ∀ opening ∈ "r#" :: quoteOpenings,
      opening.toList.isPrefixOf (name.toList ++ ':' :: rest) = false := by
    intro opening hmem
    have hshort : ∀ opening ∈ "r#" :: quoteOpenings, opening.toList.length ≤ 3 := by
      decide +kernel
    refine eq_false_of_ne_true fun hfront ↦ ?_
    have hname : opening.toList <+: name.toList :=
      List.prefix_of_prefix_length_le (List.isPrefixOf_iff_prefix.mp hfront)
        (List.prefix_append _ _) (Nat.le_trans (hshort opening hmem) hlength)
    have hnot := hopenings opening hmem
    rw [List.isPrefixOf_iff_prefix.mpr hname] at hnot
    cases hnot
  have hquoted : quoteOpenings.any (·.toList.isPrefixOf (name.toList ++ ':' :: rest)) = false := by
    rw [List.any_eq_false]
    intro opening hmem
    rw [hopening opening (List.mem_cons_of_mem _ hmem)]
    exact Bool.false_ne_true
  have hraw : Text.literal? ['r', '#'] (name.toList ++ ':' :: rest) = none := by
    have hmark : "r#".toList = ['r', '#'] := by decide +kernel
    rw [Text.literal?, ← hmark, hopening "r#" List.mem_cons_self]
    rfl
  have hcolon : Text.isIdentifierPart ':' = false ∧ isRawPart ':' = false := by decide +kernel
  have htake : (name.toList ++ ':' :: rest).takeWhile Text.isIdentifierPart = name.toList := by
    rw [List.takeWhile_append_of_pos hparts, List.takeWhile_cons_of_neg (by simp [hcolon.1]),
      List.append_nil]
  have hhead : (name.toList ++ ':' :: rest).head?.any
      (fun c ↦ c = '_' || Text.isIdentifierStart c) = true := by
    rw [List.head?_append]
    rcases hname : name.toList.head? with - | c
    · rw [hname] at hstart
      cases hstart
    · rw [hname] at hstart
      exact ((Bool.and_eq_true _ _).mp hstart).2
  rw [name?, hquoted, hraw]
  simp only [htake, List.drop_left, hhead, List.head?_cons, Option.any_some, hcolon.2,
    String.ofList_toList]
  rfl

/-- How a field of a record is read: a name, a colon, and what the name asks for. -/
def recordItem {σ : Type} (fields : List (String × Reader (FieldUpdate σ))) (d : Nat) :
    List Char → Option (FieldUpdate σ × List Char) :=
  pair name? fun key cs ↦ ((fields.lookup key).getD unknownField) { depth := d } cs

/-- What is written under a name is read back as an update of a record. -/
def ReadsField {σ : Type} (fields : List (String × Reader (FieldUpdate σ))) (levels : Nat)
    (name : String) (text : List Char) (update : FieldUpdate σ) : Prop :=
  ∃ reader, fields.lookup name = some reader ∧ Reads reader levels text update

/-- A field is read back if its value is. -/
theorem Reads.field {σ : Type} {fields : List (String × Reader (FieldUpdate σ))} {name : String}
    {text : List Char} {a : α} {get : σ → Option α} {put : α → σ → σ}
    (h : Reads r levels text a) (hfield : fields.lookup name = some (Ron.field r get put)) :
    ReadsField fields levels name text
      fun s ↦ if (get s).isSome then none else some (put a s) := by
  refine ⟨_, hfield, h.opens, fun d hd rest hrest ↦ ?_⟩
  rw [Ron.field, h.takes d hd rest hrest]
  rfl

/-- A field is read back as a part of its record. -/
theorem ReadsField.element {σ : Type} {fields : List (String × Reader (FieldUpdate σ))}
    (hnames : ∀ field ∈ fields, isPlainName field.1 = true) {name : String} {text : List Char}
    {update : FieldUpdate σ} (h : ReadsField fields levels name text update) {d : Nat}
    (hd : levels ≤ d) :
    ReadsElement (recordItem fields d) (name.toList ++ ':' :: ' ' :: text) update := by
  obtain ⟨reader, hreader, hreads⟩ := h
  have hname : isPlainName name = true := by
    obtain ⟨before, after, hfields, -⟩ := List.lookup_eq_some_iff.mp hreader
    exact hnames (name, reader) (by simp [hfields])
  refine ⟨(opens_of_isPlainName hname).append _, fun rest ↦ ?_⟩
  have hvalue := hreads.takes d hd (',' :: rest) (.comma rest)
  rw [recordItem, List.append_assoc, List.cons_append, List.cons_append]
  refine pair_append (name?_of_isPlainName hname) hreads.opens ?_
  rw [hreader]
  exact hvalue

/-- A record is read back if its fields are. The fields are written in some order, each under a
name that the reader knows; what they hold is put together from first to last. -/
theorem reads_record {σ : Type} {name : String} {fields : List (String × Reader (FieldUpdate σ))}
    {start read : σ} {finish : σ → Option α} {value : α} {written : List (String × (Nat → String))}
    {updates : List (FieldUpdate σ)} {depth : Nat}
    (hnames : ∀ field ∈ fields, isPlainName field.1 = true)
    (h : List.Forall₂ (fun f ↦ ReadsField fields levels f.1 (f.2 (depth + 1)).toList)
      written updates)
    (hread : updates.foldlM (fun (s : σ) (update : FieldUpdate σ) ↦ update s) start = some read)
    (hfinish : finish read = some value) :
    Reads (record name fields start finish) (levels + 2) (Writer.record written depth).toList
      value := by
  let fieldText (f : String × (Nat → String)) : List Char :=
    f.1.toList ++ ':' :: ' ' :: (f.2 (depth + 1)).toList
  have htext : (Writer.record written depth).toList =
      '(' :: (blockBody depth (written.map fieldText) ++ [')']) := by
    simp [Writer.record, toList_block, List.map_map, Function.comp_def, fieldText]
  have hnoName (d : Nat) (cs : List Char) : recordName name { depth := d } ('(' :: cs) =
      some ('(' :: cs) := by
    have hcontinues : continuesName ('(' :: cs) = false := by
      rw [continuesName, List.head?_cons, Option.any_some]
      decide +kernel
    rw [recordName, hcontinues]
    rfl
  let together (updates : List (FieldUpdate σ)) : Option α :=
    (updates.foldlM (fun (s : σ) (update : FieldUpdate σ) ↦ update s) start).bind finish
  have htogether : together updates = some value := by
    simp only [together, hread, Option.bind_some, hfinish]
  rw [htext]
  refine reads_block depth (recordItem fields) together (fun d cs ↦ ?_) rfl (by decide) (by decide)
    (fun d hd ↦ ?_) htogether
  · rw [record]
    simp only [hnoName, Option.bind_eq_bind, Option.bind_some,
      skipBlanks_token (c := '(') (by decide) (by decide), literal?_singleton]
    change (enclosed ')' (recordItem fields d) cs).bind _ = _
    rcases enclosed ')' (recordItem fields d) cs with - | ⟨updates, rest⟩
    · rfl
    · simp only [together, Option.bind_some]
      rcases updates.foldlM (fun (s : σ) (update : FieldUpdate σ) ↦ update s) start with - | read
      · rfl
      · rw [Option.bind_some, Option.bind_some]
        rcases finish read <;> rfl
  · rw [List.forall₂_map_left_iff]
    exact h.imp fun f update hfield ↦ hfield.element hnames hd

/-! ### Documents -/

/-- A file holds what is read back of its text. -/
theorem document_of_reads {text : String} {a : α} (h : Reads r levels text.toList a)
    (hlevels : levels ≤ 128) (hhead : text.toList.head? ≠ some '#') :
    document r text = some a := by
  have hskip := h.opens.skipBlanks []
  rw [List.append_nil] at hskip
  have hvalue := h.takes 128 hlevels [] .nil
  rw [List.append_nil] at hvalue
  have hnoHead (fuel : Nat) : head {} (fuel + 1) text.toList = some ({}, text.toList) := by
    rw [head]
    exact fun cs hcs ↦ hhead (by rw [hcs]; rfl)
  rw [document]
  simp only [hskip, Option.bind_eq_bind, Option.bind_some, hnoHead, hvalue]
  rfl

end Storyline.Ron
