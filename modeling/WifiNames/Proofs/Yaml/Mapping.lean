import WifiNames.Proofs.Yaml.Fields
import WifiNames.Yaml.Node

namespace WifiNames.Yaml

/-!
# Mappings — from fields to a document

A mapping of sections, each of which is a mapping of fields in the lines below its name.

* `Field`, `Section` — a field and a section, with their texts, tokens and nodes.
* `Lexer.AtLine.reaches_fields`, `Lexer.AtLine.reaches_sections` — **reading on** over fields and
  sections.
* `scanTokens_sections`, `Document.ofTokens?_sections` — **the tokens and the document of a whole
  text.**
-/

/-- A field of a section, with its value as it is written, and the scalar that this is. -/
structure Field where
  name : Text
  written : Text
  style : ScalarStyle
  value : Text

namespace Field

/-- The line of a field, or its lines. -/
def text (f : Field) : Text :=
  List.replicate 2 ' ' ++ (f.name ++ ':' :: ' ' :: f.written)

/-- What the text of a field reads as. -/
def tokens (f : Field) : List Token :=
  [.key, .scalar .plain f.name, .value, .scalar f.style f.value]

/-- What the tokens of a field describe. -/
def node (f : Field) : Node × Node :=
  (.scalar .plain [] f.name, .scalar f.style [] f.value)

/-- A field reads back. -/
structure IsSound (f : Field) : Prop where
  isName : IsName f.name
  isValue : Lexer.IsValue f.written (.scalar f.style f.value)
  isPrintable_of_mem : ∀ c ∈ f.written, isPrintable c = true

end Field

/-- A section with a field at least. -/
structure Section where
  name : Text
  first : Field
  others : List Field

namespace Section

/-- The fields of a section. -/
def fields (s : Section) : List Field :=
  s.first :: s.others

/-- The lines of a section. -/
def text (s : Section) : Text :=
  s.name ++ ':' :: '\n' :: s.fields.flatMap Field.text

/-- What the text of a section reads as, without the end of its block. -/
def opening (s : Section) : List Token :=
  .key :: .scalar .plain s.name :: .value :: .blockMappingStart :: s.fields.flatMap Field.tokens

/-- What the text of a section reads as. -/
def tokens (s : Section) : List Token :=
  s.opening ++ [.blockEnd]

/-- What the tokens of a section describe. -/
def node (s : Section) : Node × Node :=
  (.scalar .plain [] s.name, .mapping (s.fields.map Field.node))

/-- A section reads back. -/
structure IsSound (s : Section) : Prop where
  isName : IsName s.name
  isSound_of_mem : ∀ f ∈ s.fields, f.IsSound

end Section

/-! ### Lines -/

variable {f : Field} {fs : List Field} {s : Section} {ss : List Section} {next : Text}

theorem Field.IsSound.isLine (h : f.IsSound) (next : Text) : IsLine (f.text ++ next) := by
  rw [Field.text, List.append_assoc, List.append_assoc]
  exact isLine_replicate (startsName_append h.isName _) (Nat.le_refl 2)

theorem Section.IsSound.isLine (h : s.IsSound) (next : Text) : IsLine (s.text ++ next) := by
  rw [Section.text, List.append_assoc]
  exact isLine_replicate (startsName_append h.isName _) (Nat.zero_le 2)

theorem isLine_fields (hfs : ∀ f ∈ fs, f.IsSound) (hnext : IsLine next) :
    IsLine (fs.flatMap Field.text ++ next) := by
  cases fs with
  | nil => exact hnext
  | cons f fs =>
    rw [List.flatMap_cons, List.append_assoc]
    exact (hfs f List.mem_cons_self).isLine _

theorem isLine_nil : IsLine [] :=
  ⟨Nat.zero_le 2, nofun⟩

theorem isLine_sections (hss : ∀ s ∈ ss, s.IsSound) : IsLine (ss.flatMap Section.text) := by
  cases ss with
  | nil => exact isLine_nil
  | cons s ss =>
    rw [List.flatMap_cons]
    exact (hss s List.mem_cons_self).isLine _

namespace Lexer

variable {l : Lexer} {indent : Int} {outer outer' : List Int} {tokens opened : List Token}

/-- Reading on over a field, which may be the first one of its section. -/
theorem AtLine.reaches_field (hl : l.AtLine (f.text ++ next) indent outer tokens) (hf : f.IsSound)
    (hnext : IsLine next) (hle : indent ≤ 2)
    (hopened : openedBlocks 2 indent outer = (opened, 2, outer')) :
    ∃ l', Reaches 3 l l' ∧ l'.AtLine next 2 outer' (tokens ++ opened ++ f.tokens) := by
  have hline : f.text ++ next
      = List.replicate 2 ' ' ++ (f.name ++ ':' :: ' ' :: (f.written ++ next)) := by
    simp [Field.text]
  obtain ⟨hindentation, hcontent⟩ := indentation_and_content
    (startsName_append hf.isName (':' :: ' ' :: (f.written ++ next))) 2
  rw [hline] at hl
  obtain ⟨m, hm, hname⟩ := hl.reaches_name hindentation hcontent hf.isName rfl
    (endedBlocks_of_le hle outer) hle hopened
  obtain ⟨l', hvalue, hl'⟩ := hf.isValue next hnext m outer' _ (by omega)
  refine ⟨l', hname.trans (reaches_next (by simp [inBlock]) hvalue), ?_⟩
  rw [List.replicate_zero, List.append_nil, List.append_assoc, List.append_assoc] at hl'
  simpa [Field.tokens] using hl'

/-- Reading on over the fields of a section. -/
theorem AtLine.reaches_fields (hnext : IsLine next) (fs : List Field) :
    ∀ (l : Lexer) (tokens : List Token), (∀ f ∈ fs, f.IsSound) →
      l.AtLine (fs.flatMap Field.text ++ next) 2 outer tokens →
      ∃ l', Reaches (3 * fs.length) l l' ∧
        l'.AtLine next 2 outer (tokens ++ fs.flatMap Field.tokens) := by
  induction fs with
  | nil =>
    intro l tokens _ hl
    refine ⟨l, fun n => rfl, ?_⟩
    rwa [List.flatMap_nil, List.append_nil]
  | cons f fs ih =>
    intro l tokens hfs hl
    have hfs' := fun g hg => hfs g (List.mem_cons_of_mem f hg)
    rw [List.flatMap_cons, List.append_assoc] at hl
    obtain ⟨l₁, hfield, hl₁⟩ := hl.reaches_field (hfs f List.mem_cons_self)
      (isLine_fields hfs' hnext) (Int.le_refl 2) rfl
    obtain ⟨l', hfields, hl'⟩ := ih l₁ _ hfs' hl₁
    refine ⟨l', hfield.trans hfields, ?_⟩
    simpa using hl'

theorem length_fields (fs : List Field) : 3 * fs.length ≤ (fs.flatMap Field.text).length := by
  induction fs with
  | nil => exact Nat.le_refl 0
  | cons f fs ih =>
    simp only [List.flatMap_cons, List.length_append, List.length_cons, Field.text,
      List.length_replicate]
    omega

/-- Reading on over a section, with the block of the section before it that ends there. -/
theorem AtLine.reaches_section {n : Nat} {indent₁ : Int} {outer₁ : List Int}
    (hl : l.AtLine (s.text ++ next) indent outer tokens) (hs : s.IsSound) (hnext : IsLine next)
    (hends : endedBlocks 0 indent outer = (n, indent₁, outer₁)) (hle : indent₁ ≤ 0)
    (hopened : openedBlocks 0 indent₁ outer₁ = (opened, 0, outer')) :
    ∃ k l', k ≤ s.text.length ∧ Reaches k l l' ∧ l'.AtLine next 2 (0 :: outer')
      (tokens ++ List.replicate n .blockEnd ++ opened ++ s.opening) := by
  have hline : s.text ++ next = s.name ++ ':' :: '\n' :: (s.fields.flatMap Field.text ++ next) := by
    simp [Section.text]
  obtain ⟨hindentation, hcontent⟩ := indentation_and_content
    (startsName_append hs.isName (':' :: '\n' :: (s.fields.flatMap Field.text ++ next))) 0
  rw [hline] at hl
  obtain ⟨m, -, hname⟩ := hl.reaches_name hindentation hcontent hs.isName rfl hends hle hopened
  -- The first field opens the block of the section.
  have hothers := fun f hf => hs.isSound_of_mem f (List.mem_cons_of_mem s.first hf)
  have hline : IsLine (s.fields.flatMap Field.text ++ next) := isLine_fields hs.isSound_of_mem hnext
  generalize htokens : tokens ++ List.replicate n .blockEnd ++ opened
    ++ [.key, .scalar .plain s.name, .value] = before at hname
  have hsection : (inBlock ('\n' :: (s.fields.flatMap Field.text ++ next)) m false 0 outer'
      before).AtLine (s.first.text ++ (s.others.flatMap Field.text ++ next)) 0 outer' before := by
    rw [← List.append_assoc]
    exact atLine_feed hline m false
  obtain ⟨l₁, hfirst, hl₁⟩ := hsection.reaches_field (hs.isSound_of_mem s.first List.mem_cons_self)
    (isLine_fields hothers hnext) (by decide) rfl
  obtain ⟨l', hfields, hl'⟩ := AtLine.reaches_fields hnext s.others l₁ _ hothers hl₁
  refine ⟨_, l', ?_, hname.trans (hfirst.trans hfields), ?_⟩
  · have hlength := length_fields s.fields
    simp only [Section.text, Section.fields, List.length_append, List.length_cons] at hlength ⊢
    omega
  · rw [← htokens] at hl'
    simpa [Section.opening, Section.fields] using hl'

/-- Reading on over sections after the first one. -/
theorem AtLine.reaches_sections (ss : List Section) :
    ∀ (l : Lexer) (tokens : List Token), (∀ s ∈ ss, s.IsSound) →
      l.AtLine (ss.flatMap Section.text) 2 [0, -1] tokens →
      ∃ k l', k ≤ (ss.flatMap Section.text).length ∧ Reaches k l l' ∧ l'.AtLine [] 2 [0, -1]
        (tokens ++ ss.flatMap fun s => .blockEnd :: s.opening) := by
  induction ss with
  | nil =>
    intro l tokens _ hl
    refine ⟨0, l, Nat.le_refl 0, fun n => rfl, ?_⟩
    rwa [List.flatMap_nil, List.append_nil]
  | cons s ss ih =>
    intro l tokens hss hl
    have hss' := fun t ht => hss t (List.mem_cons_of_mem s ht)
    -- The block of the section before ends at the name of this one.
    obtain ⟨k₁, l₁, hk₁, hsection, hl₁⟩ := AtLine.reaches_section hl (hss s List.mem_cons_self)
      (isLine_sections hss') rfl (Int.le_refl 0) rfl
    obtain ⟨k₂, l', hk₂, hsections, hl'⟩ := ih l₁ _ hss' hl₁
    refine ⟨_, l', ?_, hsection.trans hsections, ?_⟩
    · rw [List.flatMap_cons, List.length_append]
      omega
    · simpa using hl'

/-- At the end of the text all blocks end. -/
theorem AtLine.next_eq {a b : Nat} {indent₁ : Int} {outer₁ : List Int}
    (hl : l.AtLine [] indent outer tokens)
    (hends : endedBlocks 0 indent outer = (a, indent₁, outer₁))
    (hends' : endedBlocks (-1) indent₁ outer₁ = (b, -1, [])) :
    ∃ line, l.next = .ok (inBlock [] ⟨line, 0, 0⟩ true (-1) []
      (tokens ++ List.replicate a .blockEnd ++ List.replicate b .blockEnd)) := by
  obtain ⟨rest, mark, allowed, line, rfl, hpass⟩ := hl
  refine ⟨line, ?_⟩
  rw [next_inBlock hpass hends]
  show (closeBlocks (inBlock [] ⟨line, 0, 0⟩ true indent₁ outer₁ _) (-1)).dropKey = _
  rw [closeBlocks_inBlock hends']
  rfl

theorem AtLine.run_eq (n : Nat) {a b : Nat} {indent₁ : Int} {outer₁ : List Int}
    (hl : l.AtLine [] indent outer tokens)
    (hends : endedBlocks 0 indent outer = (a, indent₁, outer₁))
    (hends' : endedBlocks (-1) indent₁ outer₁ = (b, -1, [])) :
    ∃ l', l.run n = .ok l' ∧ l'.reversed.reverse
      = tokens ++ List.replicate a .blockEnd ++ List.replicate b .blockEnd := by
  induction n generalizing l indent outer tokens a b indent₁ outer₁ with
  | zero =>
    obtain ⟨line, hnext⟩ := hl.next_eq hends hends'
    exact ⟨_, hnext, List.reverse_reverse _⟩
  | succ n ih =>
    obtain ⟨line, hnext⟩ := hl.next_eq hends hends'
    rw [run, hnext]
    by_cases hrest : l.rest.isEmpty = true
    · rw [if_pos hrest]
      exact ⟨_, rfl, List.reverse_reverse _⟩
    · -- Once they have ended, nothing more ends.
      rw [if_neg hrest]
      have hnone : endedBlocks 0 (-1) [] = (0, -1, []) := rfl
      have hnone' : endedBlocks (-1) (-1) [] = (0, -1, []) := rfl
      obtain ⟨l', hrun, htokens⟩ := ih (atLine_content isLine_nil line) hnone hnone'
      refine ⟨l', hrun, ?_⟩
      simpa using htokens

end Lexer

/-! ### Whole texts -/

theorem isAllowed_of_isPrintable {c : Char} (hc : isPrintable c = true) : isAllowed c = true := by
  simp only [isPrintable, isAllowed, Bool.or_eq_true, Bool.and_eq_true, decide_eq_true_eq,
    beq_iff_eq] at hc ⊢
  omega

/-- Where only line feeds end lines, breaks stay what they are. -/
theorem unifyBreaks_eq {t : Text} (ht : ∀ c ∈ t, isPrintable c = true) : unifyBreaks t = t := by
  induction t with
  | nil => rfl
  | cons c t ih =>
    have hc := ht c List.mem_cons_self
    -- Neither of the other two line ends is printable.
    have hreturn : c ≠ '\r' := by
      rintro rfl
      exact absurd hc (by decide)
    have hnext : c ≠ '\u0085' := by
      rintro rfl
      exact absurd hc (by decide)
    rw [unifyBreaks.eq_def]
    split
    · next heq => cases heq
    · next heq =>
      cases heq
      exact absurd rfl hreturn
    · next heq =>
      cases heq
      simp [hreturn, hnext, ih fun d hd => ht d (List.mem_cons_of_mem _ hd)]

theorem IsName.isPrintable_of_mem {name : Text} (h : IsName name) :
    ∀ c ∈ name, isPrintable c = true :=
  fun c hc => isPrintable_of_isNameChar (h.isNameChar_of_mem c hc)

theorem Section.IsSound.isPrintable_text (h : s.IsSound) : ∀ c ∈ s.text, isPrintable c = true := by
  have hfield : ∀ f ∈ s.fields, ∀ c ∈ f.text, isPrintable c = true := by
    intro f hf c hc
    have hsound := h.isSound_of_mem f hf
    simp only [Field.text, List.mem_append, List.mem_replicate, List.mem_cons] at hc
    rcases hc with ⟨-, rfl⟩ | hc | rfl | rfl | hc
    · rfl
    · exact hsound.isName.isPrintable_of_mem c hc
    · rfl
    · rfl
    · exact hsound.isPrintable_of_mem c hc
  intro c hc
  simp only [Section.text, List.mem_append, List.mem_cons, List.mem_flatMap] at hc
  rcases hc with hc | rfl | rfl | ⟨f, hf, hc⟩
  · exact h.isName.isPrintable_of_mem c hc
  · rfl
  · rfl
  · exact hfield f hf c hc

/-- The block of a section ends where the next one begins. -/
theorem opening_append (s : Section) (ss : List Section) :
    s.opening ++ ((ss.flatMap fun s => .blockEnd :: s.opening) ++ [.blockEnd])
      = (s :: ss).flatMap Section.tokens := by
  induction ss generalizing s with
  | nil => simp [Section.tokens]
  | cons s' ss ih =>
    have hsections := ih s'
    rw [List.flatMap_cons] at hsections
    simp only [List.flatMap_cons, Section.tokens, List.append_assoc, List.cons_append,
      List.nil_append] at hsections ⊢
    rw [hsections]

/-- The tokens of a mapping of sections. -/
theorem scanTokens_sections (hs : s.IsSound) (hss : ∀ s ∈ ss, s.IsSound) :
    scanTokens ((s :: ss).flatMap Section.text)
      = .ok (.blockMappingStart :: ((s :: ss).flatMap Section.tokens ++ [.blockEnd])) := by
  have hall : ∀ s' ∈ s :: ss, s'.IsSound := List.forall_mem_cons.2 ⟨hs, hss⟩
  have hprint : ∀ c ∈ (s :: ss).flatMap Section.text, isPrintable c = true := by
    intro c hc
    obtain ⟨s', hs', hc⟩ := List.mem_flatMap.1 hc
    exact (hall s' hs').isPrintable_text c hc
  have hallowed : ((s :: ss).flatMap Section.text).all isAllowed = true :=
    List.all_eq_true.2 fun c hc => isAllowed_of_isPrintable (hprint c hc)
  have hstart := Lexer.atLine_start (isLine_sections hall)
  rw [List.flatMap_cons] at hstart
  obtain ⟨k₁, l₁, hk₁, hfirst, hl₁⟩ := hstart.reaches_section hs (isLine_sections hss) rfl
    (by decide) rfl
  obtain ⟨k₂, l₂, hk₂, hsections, hl₂⟩ := Lexer.AtLine.reaches_sections ss l₁ _ hss hl₁
  -- What is left of the text is more than enough for the end.
  obtain ⟨n, hn⟩ : ∃ n, ((s :: ss).flatMap Section.text).length = n + (k₂ + k₁) := by
    refine ⟨((s :: ss).flatMap Section.text).length - (k₂ + k₁), ?_⟩
    rw [List.flatMap_cons, List.length_append]
    omega
  have htwo : Lexer.endedBlocks 0 2 [0, -1] = (1, 0, [-1]) := rfl
  have hzero : Lexer.endedBlocks (-1) 0 [-1] = (1, -1, []) := rfl
  obtain ⟨l, hrun, htokens⟩ := hl₂.run_eq n htwo hzero
  have hreaches := hfirst.trans hsections n
  rw [hrun, ← hn] at hreaches
  rw [scanTokens, if_pos hallowed, unifyBreaks_eq hprint]
  simp only [List.flatMap_cons] at hreaches ⊢
  simp only [hreaches, bind, Except.bind, pure, Except.pure, htokens]
  rw [← List.flatMap_cons, ← opening_append]
  simp

/-! ### Documents -/

/-- A scalar is a node. -/
theorem readNode_scalar (fuel : Nat) (block unindented : Bool) (scope : Scope)
    (style : ScalarStyle) (text : Text) (rest : List Token) :
    readNode (fuel + 2) block unindented scope (.scalar style text :: rest)
      = .ok (.scalar style [] text, scope, rest) := by
  simp [readNode, readContent, readProperties, Scope.name, Scope.keep, Properties.tagBytes]
  rfl

/-- Fields are read up to the end of their block. -/
theorem readBlockFields_fields (scope : Scope) (rest : List Token) (fs : List Field) :
    ∀ fuel, fs.length + 4 ≤ fuel →
      readBlockFields fuel scope (fs.flatMap Field.tokens ++ .blockEnd :: rest)
        = .ok (fs.map Field.node, scope, rest) := by
  induction fs with
  | nil =>
    intro fuel hfuel
    obtain ⟨n, rfl⟩ : ∃ n, fuel = n + 1 :=
      ⟨fuel - 1, by simp only [List.length_nil] at hfuel; omega⟩
    rw [List.flatMap_nil, List.nil_append, readBlockFields]
    rfl
  | cons f fs ih =>
    intro fuel hfuel
    obtain ⟨n, rfl⟩ : ∃ n, fuel = n + 4 :=
      ⟨fuel - 4, by simp only [List.length_cons] at hfuel; omega⟩
    have hfields := ih (n + 3) (by simp only [List.length_cons] at hfuel; omega)
    have htokens : (f :: fs).flatMap Field.tokens ++ .blockEnd :: rest
        = .key :: .scalar .plain f.name :: .value :: .scalar f.style f.value
          :: (fs.flatMap Field.tokens ++ .blockEnd :: rest) := rfl
    -- The value is a scalar, behind which the next key stands.
    have hvalue : readBlockValue (n + 3) scope (.value :: .scalar f.style f.value
        :: (fs.flatMap Field.tokens ++ .blockEnd :: rest))
          = .ok (.scalar f.style [] f.value, scope,
            fs.flatMap Field.tokens ++ .blockEnd :: rest) := by
      rw [readBlockValue]
      exact readNode_scalar n true true scope f.style f.value _
    rw [htokens, readBlockFields]
    simp only [endsBlockNode, Bool.false_eq_true, if_false, readNode_scalar, hvalue, hfields, bind,
      Except.bind]
    rfl

/-- The node of a section is the mapping of its fields. -/
theorem readBlockValue_section (scope : Scope) (rest : List Token) (s : Section) (n : Nat) :
    readBlockValue (n + s.fields.length + 8) scope (.value :: .blockMappingStart
      :: (s.fields.flatMap Field.tokens ++ .blockEnd :: rest))
        = .ok (.mapping (s.fields.map Field.node), scope, rest) := by
  have hfields := readBlockFields_fields scope rest s.fields (n + s.fields.length + 5) (by omega)
  rw [show n + s.fields.length + 8 = n + s.fields.length + 5 + 1 + 1 + 1 by omega, readBlockValue]
  simp only [endsBlockNode, Bool.false_eq_true, if_false, readNode, readProperties, bind,
    Except.bind, Scope.name, readContent, if_true, hfields]
  rfl

/-- Sections are read up to the end of their block. -/
theorem readBlockFields_sections (scope : Scope) (rest : List Token) (ss : List Section) :
    ∀ fuel, 0 < fuel → (∀ s ∈ ss, ss.length + s.fields.length + 8 ≤ fuel) →
      readBlockFields fuel scope (ss.flatMap Section.tokens ++ .blockEnd :: rest)
        = .ok (ss.map Section.node, scope, rest) := by
  induction ss with
  | nil =>
    intro fuel hfuel _
    obtain ⟨n, rfl⟩ : ∃ n, fuel = n + 1 := ⟨fuel - 1, by omega⟩
    rw [List.flatMap_nil, List.nil_append, readBlockFields]
    rfl
  | cons s ss ih =>
    intro fuel hfuel hbound
    have hs := hbound s List.mem_cons_self
    obtain ⟨n, rfl⟩ : ∃ n, fuel = n + s.fields.length + 8 + 1 :=
      ⟨fuel - s.fields.length - 9, by simp only [List.length_cons] at hs; omega⟩
    have hsections := ih (n + s.fields.length + 8) (by omega) (by
      intro s' hs'
      have := hbound s' (List.mem_cons_of_mem s hs')
      simp only [List.length_cons] at this
      omega)
    have htokens : (s :: ss).flatMap Section.tokens ++ .blockEnd :: rest
        = .key :: .scalar .plain s.name :: .value :: .blockMappingStart
          :: (s.fields.flatMap Field.tokens ++ .blockEnd
            :: (ss.flatMap Section.tokens ++ .blockEnd :: rest)) := by
      simp [Section.tokens, Section.opening]
    -- The name is a scalar, and the value is a mapping in a block of its own.
    have hname : readNode (n + s.fields.length + 8) true true scope (.scalar .plain s.name
        :: .value :: .blockMappingStart :: (s.fields.flatMap Field.tokens ++ .blockEnd
          :: (ss.flatMap Section.tokens ++ .blockEnd :: rest))) = _ :=
      readNode_scalar (n + s.fields.length + 6) true true scope .plain s.name _
    rw [htokens, readBlockFields]
    simp only [endsBlockNode, Bool.false_eq_true, if_false, hname, readBlockValue_section,
      hsections, bind, Except.bind]
    rfl

theorem length_le_length_tokens (s : Section) : s.fields.length + 1 ≤ s.tokens.length := by
  have hfields : ∀ fs : List Field, fs.length ≤ (fs.flatMap Field.tokens).length := by
    intro fs
    induction fs with
    | nil => exact Nat.le_refl 0
    | cons f fs ih =>
      simp only [List.flatMap_cons, List.length_append, List.length_cons, Field.tokens]
      omega
  have hlength := hfields s.fields
  simp only [Section.tokens, Section.opening, List.length_append, List.length_cons]
  omega

/-- There are more tokens than the reader goes deep. -/
theorem length_sections (ss : List Section) : ss.length ≤ (ss.flatMap Section.tokens).length ∧
    ∀ s ∈ ss, ss.length + s.fields.length ≤ (ss.flatMap Section.tokens).length := by
  induction ss with
  | nil => exact ⟨Nat.le_refl 0, nofun⟩
  | cons s ss ih =>
    have hs := length_le_length_tokens s
    simp only [List.flatMap_cons, List.length_append, List.length_cons, List.mem_cons]
    refine ⟨by omega, ?_⟩
    rintro s' (rfl | hs')
    · omega
    · have := ih.2 s' hs'
      omega

/-- The document of a mapping of sections. -/
theorem Document.ofTokens?_sections (ss : List Section) :
    Document.ofTokens? (.blockMappingStart :: (ss.flatMap Section.tokens ++ [.blockEnd]))
      = .ok ⟨some (.mapping (ss.map Section.node)), []⟩ := by
  have hlength := (length_sections ss).2
  have hread := readBlockFields_sections ⟨[] ++ Scope.standardHandles, [], 0, []⟩ [] ss
    (4 * (ss.flatMap Section.tokens).length + 10) (by omega) (by
      intro s hs
      have := hlength s hs
      omega)
  have hfuel : 4 * (Token.blockMappingStart :: (ss.flatMap Section.tokens
      ++ [Token.blockEnd])).length + 4 = 4 * (ss.flatMap Section.tokens).length + 10 + 1 + 1 := by
    simp only [List.length_cons, List.length_append, List.length_nil]
    omega
  show readRoot [] false _ = _
  rw [readRoot, hfuel]
  simp only [Bool.false_eq_true, if_false, readNode, readProperties, bind, Except.bind, Scope.name,
    readContent, if_true, hread]
  rfl

end WifiNames.Yaml
