import WifiNames.Proofs.Yaml.Mapping
import WifiNames.Settings.Reader
import WifiNames.Settings.Writer

namespace WifiNames.Settings

/-!
# Settings — reading what was written

Whatever they are, settings that were written as YAML are read back.

* `natural?_toString` — numbers read back.
* `sections`, `write_eq` — the text of settings as a mapping of sections.
* `parse_write` — **written settings read back.**
-/

open Yaml

/-! ### Numbers -/

theorem toList_toString (n : Nat) : (toString n).toList = Nat.toDigits 10 n := by
  rw [Nat.toString_eq_ofList_toDigits, String.toList_ofList]

theorem isDigit_of_mem_toDigits {n : Nat} : ∀ c ∈ Nat.toDigits 10 n, c.isDigit = true :=
  fun _ hc => Nat.isDigit_of_mem_toDigits (by decide) (by decide) hc

theorem foldlM_toDigits (n : Nat) : (Nat.toDigits 10 n).foldlM
    (fun value c => (Decimal.digitValue? 10 c).map (10 * value + ·)) 0 = some n := by
  have hdigit : ∀ n < 10, Decimal.digitValue? 10 n.digitChar = some n := by decide
  induction n using Nat.strongRecOn with
  | ind n ih =>
    -- The last digit is the remainder, and those before it are the digits of the quotient.
    by_cases hlt : n < 10
    · rw [Nat.toDigits_of_lt_base hlt]
      simp [hdigit n hlt]
    · have hdiv := ih (n / 10) (by omega)
      have hmod := hdigit (n % 10) (Nat.mod_lt n (by decide))
      rw [Nat.toDigits_of_base_le (by decide) (by omega), List.foldlM_append, hdiv]
      simp [hmod, Nat.div_add_mod]

/-- No zero stands before a number. -/
theorem head?_toDigits {n : Nat} (hn : 0 < n) : (Nat.toDigits 10 n).head? ≠ some '0' := by
  induction n using Nat.strongRecOn with
  | ind n ih =>
    by_cases hlt : n < 10
    · rw [Nat.toDigits_of_lt_base hlt, List.head?_cons, ne_eq, Option.some.injEq,
        Nat.digitChar_eq_zero]
      omega
    · obtain ⟨c, t, ht⟩ := List.exists_cons_of_ne_nil (Nat.toDigits_ne_nil (n := n / 10) (b := 10))
      have hhead := ih (n / 10) (by omega) (by omega)
      rw [Nat.toDigits_of_base_le (by decide) (by omega), ht, List.cons_append]
      rwa [ht] at hhead

/-- Digits without a superfluous zero before them read as a number in base ten. -/
theorem natural?_of_isDigit {t : Text} (ht : ∀ c ∈ t, c.isDigit = true)
    (hzero : ∀ rest, t = '0' :: rest → rest = []) : natural? t = Decimal.digits? 10 t := by
  cases t with
  | nil => rfl
  | cons c t =>
    have hc : c.isDigit = true := ht c List.mem_cons_self
    by_cases hhead : c = '0'
    · subst hhead
      rw [hzero t rfl]
      rfl
    · have hplus : c ≠ '+' := by
        rintro rfl
        cases hc
      have hminus : c ≠ '-' := by
        rintro rfl
        cases hc
      -- Without a sign, a radix or a superfluous zero only the plain reading is left.
      have hdrop : Decimal.dropPlus (c :: t) = c :: t := by
        unfold Decimal.dropPlus
        split
        · next heq => exact absurd (List.cons.inj heq).1 hplus
        · rfl
      have hradix : radix? (c :: t) = none := by
        unfold radix?
        split
        · next heq => exact absurd (List.cons.inj heq).1 hhead
        · next heq => exact absurd (List.cons.inj heq).1 hhead
        · next heq => exact absurd (List.cons.inj heq).1 hhead
        · rfl
      have hleading : hasLeadingZero (c :: t) = false := by
        have hsign : dropSign (c :: t) = c :: t := by
          unfold dropSign
          split
          · next heq => exact absurd (List.cons.inj heq).1 hplus
          · next heq => exact absurd (List.cons.inj heq).1 hminus
          · rfl
        unfold hasLeadingZero
        rw [hsign]
        split
        · next heq => exact absurd (List.cons.inj heq).1 hhead
        · rfl
      simp only [natural?, hdrop, hradix, hleading, Bool.false_eq_true, if_false]

/-- A number reads back. -/
theorem natural?_toString (n : Nat) : natural? (toString n).toList = some n := by
  rw [toList_toString, natural?_of_isDigit isDigit_of_mem_toDigits, Decimal.digits?,
    if_neg (by simp), foldlM_toDigits]
  intro rest hrest
  rcases Nat.eq_zero_or_pos n with rfl | hn
  · rw [Nat.toDigits_zero] at hrest
    exact (List.cons.inj hrest).2.symm
  · exact absurd (by rw [hrest]; rfl) (head?_toDigits hn)

theorem isNameChar_of_mem_toString {n : Nat} : ∀ c ∈ (toString n).toList, isNameChar c = true := by
  intro c hc
  rw [toList_toString] at hc
  have hdigit : 0x30 ≤ c.toNat ∧ c.toNat ≤ 0x39 :=
    Char.isDigit_iff_toNat.1 (isDigit_of_mem_toDigits c hc)
  simp [isNameChar, hdigit]

/-! ### The text of settings -/

/-- A field with a number. -/
def wordField (name : String) (value : UInt64) : Field :=
  ⟨name.toList, (toString value.toNat).toList ++ ['\n'], .plain, (toString value.toNat).toList⟩

/-- A field with a boolean. -/
def flagField (name : String) (value : Bool) : Field :=
  ⟨name.toList, writeFlag value ++ ['\n'], .plain, writeFlag value⟩

/-- A field with a text. -/
def textField (name : String) (value : String) : Field :=
  ⟨name.toList, writeText value.toList, style value.toList, value.toList⟩

/-- The section of what decides about conversions. -/
def converterSection (s : Settings) : Section :=
  ⟨"converter".toList, textField "charset" s.charset, [wordField "max_output_len" s.capacity]⟩

/-- The section of what decides about reports. -/
def outputSection (s : Settings) : Section :=
  ⟨"output".toList, flagField "enable_colors" s.colours, [flagField "json" s.json]⟩

/-- The section of what decides about notes. -/
def globalSection (s : Settings) : Section :=
  ⟨"global".toList, flagField "verbose" s.verbose, [flagField "debug_history" s.dumpsHistory]⟩

/-- The sections of a settings file. -/
def sections (s : Settings) : List Section :=
  [s.converterSection, s.outputSection, s.globalSection]

theorem writeField_eq (f : Field) {name : String} (hname : f.name = name.toList) :
    writeField name f.written = f.text := by
  have hmargin : "  ".toList = List.replicate 2 ' ' := rfl
  have hcolon : ": ".toList = [':', ' '] := rfl
  rw [writeField, Field.text, hname, hmargin, hcolon, List.append_assoc, List.append_assoc]
  rfl

/-- A section with two fields. -/
theorem section_eq (name : Text) {header first other : Text} {f g : Field}
    (hheader : header = name ++ [':', '\n']) (hfirst : first = f.text) (hother : other = g.text) :
    header ++ first ++ other = (⟨name, f, [g]⟩ : Section).text := by
  simp [hheader, hfirst, hother, Section.text, Section.fields]

theorem write_eq (s : Settings) : s.write = s.sections.flatMap Section.text := by
  have hconverter : "converter:\n".toList ++ writeField "charset" (writeText s.charset.toList)
      ++ writeField "max_output_len" ((toString s.capacity.toNat).toList ++ ['\n']) = _ :=
    section_eq "converter".toList rfl (writeField_eq (textField "charset" s.charset) rfl)
      (writeField_eq (wordField "max_output_len" s.capacity) rfl)
  have houtput : "output:\n".toList ++ writeFlagField "enable_colors" s.colours
      ++ writeFlagField "json" s.json = _ :=
    section_eq "output".toList rfl (writeField_eq (flagField "enable_colors" s.colours) rfl)
      (writeField_eq (flagField "json" s.json) rfl)
  have hglobal : "global:\n".toList ++ writeFlagField "verbose" s.verbose
      ++ writeFlagField "debug_history" s.dumpsHistory = _ :=
    section_eq "global".toList rfl (writeField_eq (flagField "verbose" s.verbose) rfl)
      (writeField_eq (flagField "debug_history" s.dumpsHistory) rfl)
  have hgroups : ∀ a b c d e f g h i : Text, a ++ b ++ c ++ d ++ e ++ f ++ g ++ h ++ i
      = (a ++ b ++ c) ++ ((d ++ e ++ f) ++ (g ++ h ++ i)) := by
    intros
    simp only [List.append_assoc]
  refine (hgroups _ _ _ _ _ _ _ _ _).trans ?_
  rw [sections, List.flatMap_cons, List.flatMap_cons, List.flatMap_cons, List.flatMap_nil,
    List.append_nil]
  exact congr (congrArg (· ++ ·) hconverter) (congr (congrArg (· ++ ·) houtput) hglobal)

/-! ### Reading it -/

theorem isSound_textField {name : String} (hname : IsName name.toList) (value : String) :
    (textField name value).IsSound :=
  ⟨hname, Lexer.isValue_of_writtenAs (writtenAs _), (writtenAs _).isPrintable_of_mem⟩

/-- A field with a word or a number. -/
theorem isSound_of_isNameChar {name value : Text} (hname : IsName name)
    (hvalue : ∀ c ∈ value, isNameChar c = true) (hne : value ≠ []) :
    Field.IsSound ⟨name, value ++ ['\n'], .plain, value⟩ := by
  refine ⟨hname, Lexer.isValue_name hvalue hne, ?_⟩
  intro c hc
  rcases List.mem_append.1 hc with hc | hc
  · exact isPrintable_of_isNameChar (hvalue c hc)
  · rw [List.mem_singleton.1 hc]
    rfl

theorem isSound_wordField {name : String} (hname : IsName name.toList) (value : UInt64) :
    (wordField name value).IsSound := by
  refine isSound_of_isNameChar hname isNameChar_of_mem_toString ?_
  rw [Nat.toString_eq_ofList_toDigits, String.toList_ofList]
  exact Nat.toDigits_ne_nil

theorem isSound_flagField {name : String} (hname : IsName name.toList) (value : Bool) :
    (flagField name value).IsSound := by
  -- Both words consist of letters.
  cases value with
  | true => exact isSound_of_isNameChar hname (List.all_eq_true.1 rfl) (List.cons_ne_nil _ _)
  | false => exact isSound_of_isNameChar hname (List.all_eq_true.1 rfl) (List.cons_ne_nil _ _)

theorem isSound_section {name : Text} {f g : Field} (hname : IsName name) (hf : f.IsSound)
    (hg : g.IsSound) : Section.IsSound ⟨name, f, [g]⟩ :=
  ⟨hname, by simpa [Section.fields] using ⟨hf, hg⟩⟩

theorem isSound_sections (s : Settings) : ∀ t ∈ s.sections, t.IsSound := by
  have hconverter : s.converterSection.IsSound := isSound_section
    (show IsName "converter".toList by decide)
    (isSound_textField (show IsName "charset".toList by decide) s.charset)
    (isSound_wordField (show IsName "max_output_len".toList by decide) s.capacity)
  have houtput : s.outputSection.IsSound := isSound_section
    (show IsName "output".toList by decide)
    (isSound_flagField (show IsName "enable_colors".toList by decide) s.colours)
    (isSound_flagField (show IsName "json".toList by decide) s.json)
  have hglobal : s.globalSection.IsSound := isSound_section
    (show IsName "global".toList by decide)
    (isSound_flagField (show IsName "verbose".toList by decide) s.verbose)
    (isSound_flagField (show IsName "debug_history".toList by decide) s.dumpsHistory)
  exact List.forall_mem_cons.2 ⟨hconverter, List.forall_mem_cons.2 ⟨houtput,
    List.forall_mem_cons.2 ⟨hglobal, nofun⟩⟩⟩

/-- The document of a settings file. -/
def document (s : Settings) : Document :=
  ⟨some (.mapping (s.sections.map Section.node)), []⟩

theorem ofTokens?_write (s : Settings) :
    (scanTokens s.write >>= Document.ofTokens?) = .ok s.document := by
  have hsound := List.forall_mem_cons.1 s.isSound_sections
  rw [write_eq, sections, scanTokens_sections hsound.1 hsound.2]
  exact Document.ofTokens?_sections s.sections

theorem flag_flagField (d : Document) (name : String) (value : Bool) :
    d.flag (flagField name value).node.2 = .ok value := by
  cases value <;> rfl

theorem word_wordField (d : Document) (name : String) (value : UInt64) :
    d.word (wordField name value).node.2 = .ok value := by
  have hfit : Decimal.fit? value.toNat = some value := by
    rw [Decimal.fit?, if_pos value.toNat_lt, UInt64.ofNat_toNat]
  have hvalue : ((d.typed? "int" (wordField name value).node.2).bind natural?).bind Decimal.fit?
      = some value := by
    show (natural? (toString value.toNat).toList).bind Decimal.fit? = some value
    rw [natural?_toString, Option.bind_some, hfit]
  rw [Document.word, hvalue]

/-- The fields of a mapping whose keys are scalars. -/
theorem fields_map {β : Type} (d : Document) (key : β → Text) (node : β → Node) (l : List β) :
    d.fields (.mapping (l.map fun b => (.scalar .plain [] (key b), node b)))
      = .ok (l.map fun b => (key b, node b)) := by
  show (l.map fun b => (Node.scalar .plain [] (key b), node b)).mapM
    (fun p => do return (← d.text p.1, p.2)) = _
  induction l with
  | nil => rfl
  | cons b l ih =>
    rw [List.map_cons, List.mapM_cons, ih]
    rfl

/-- A field that is there once is read. -/
theorem field_map {α β : Type} (read : Node → Except Yaml.Fault α) {name : String} (absent : α)
    {key : β → Text} (node : β → Node) {l : List β} {b : β}
    (h : l.filter (key · == name.toList) = [b]) :
    Document.field read name absent (l.map fun b => (key b, node b)) = read (node b) := by
  rw [Document.field, List.filter_map]
  simp only [Function.comp_def, h, List.map_cons, List.map_nil]

/-- A settings file holds every field once, with the value that the settings have. -/
theorem ofDocument_document (absent s : Settings) :
    ofDocument absent s.document = .ok { s with source := absent.source } := by
  have hroot : s.document.root
      = some (.mapping (s.sections.map fun t => (.scalar .plain [] t.name, t.node.2))) := rfl
  have htop := fields_map s.document Section.name (fun t => t.node.2) s.sections
  -- Every section is there once, under its own name.
  have hsection : ∀ (name : String) (t : Section),
      s.sections.filter (Section.name · == name.toList) = [t] →
      Document.field s.document.fields name [] (s.sections.map fun t => (t.name, t.node.2))
        = .ok (t.fields.map fun f => (f.name, f.node.2)) := fun name t ht =>
    (field_map s.document.fields [] (fun t => t.node.2) ht).trans
      (fields_map s.document Field.name (fun f => f.node.2) t.fields)
  have hcharset : Document.field s.document.text "charset" absent.charset.toList
      (s.converterSection.fields.map fun f => (f.name, f.node.2)) = .ok s.charset.toList :=
    field_map (b := textField "charset" s.charset) _ _ (fun f => f.node.2) rfl
  have hcapacity : Document.field s.document.word "max_output_len" absent.capacity
      (s.converterSection.fields.map fun f => (f.name, f.node.2)) = .ok s.capacity :=
    (field_map (b := wordField "max_output_len" s.capacity) _ _ (fun f => f.node.2) rfl).trans
      (word_wordField s.document _ s.capacity)
  have hflag : ∀ (name : String) (value absent : Bool) (t : Section),
      t.fields.filter (Field.name · == name.toList) = [flagField name value] →
      Document.field s.document.flag name absent (t.fields.map fun f => (f.name, f.node.2))
        = .ok value := fun name value absent t ht =>
    (field_map s.document.flag absent (fun f => f.node.2) ht).trans
      (flag_flagField s.document name value)
  unfold ofDocument
  simp only [hroot, htop, hsection "converter" s.converterSection rfl,
    hsection "output" s.outputSection rfl, hsection "global" s.globalSection rfl, hcharset,
    hcapacity, hflag "enable_colors" s.colours absent.colours s.outputSection rfl,
    hflag "json" s.json absent.json s.outputSection rfl,
    hflag "verbose" s.verbose absent.verbose s.globalSection rfl,
    hflag "debug_history" s.dumpsHistory absent.dumpsHistory s.globalSection rfl, bind, Except.bind,
    String.ofList_toList]
  rfl

/-- Written settings read back, whatever would be read where they are absent. -/
theorem parse_write (absent s : Settings) :
    parse absent s.write = .ok { s with source := absent.source } := by
  have houtcome : (do
      let document ← Document.ofTokens? (← scanTokens s.write)
      ofDocument absent document) = .ok { s with source := absent.source } := by
    rw [← bind_assoc, ofTokens?_write]
    exact (pure_bind s.document (ofDocument absent)).trans (ofDocument_document absent s)
  rw [parse, houtcome]

end WifiNames.Settings
