import WifiNames.Proofs.Yaml.Literal
import WifiNames.Proofs.Yaml.Plain
import WifiNames.Proofs.Yaml.Quoted
import WifiNames.Yaml.Token.Lexer

namespace WifiNames.Yaml

/-!
# Fields — from lines to tokens

The lines of a mapping are read one by one.  Between them the lexer is in a state that only the
blocks and tokens so far and the line ahead tell apart: how a line was written does not matter.

* `Lexer.inBlock`, `Lexer.AtLine` — the lexer within a block, and before a line.
* `Lexer.Reaches` — how runs are put together.
* `Lexer.AtLine.reaches_name` — **the name of a field**, with the blocks that end and begin there.
* `WrittenAs` — the four ways in which a text is written.
* `Lexer.IsValue` — what is written for a value reads as one token;
  `Lexer.isValue_of_writtenAs` for any text, `Lexer.isValue_name` for words and numbers.
-/

/-! ### The styles of texts -/

/-- The ways in which a text is written, with what is needed for each. -/
inductive WrittenAs (t : Text) : ScalarStyle → Text → Prop
  | literal : hasSpecial t = false → t ≠ [] → WrittenAs t .literal (writeLiteral t ++ blockEnd t)
  | plain : allowsPlain t = true → t ≠ [] → WrittenAs t .plain (t ++ ['\n'])
  | singleQuoted : allowsSingle t = true → '\n' ∉ t →
    WrittenAs t .singleQuoted (writeSingle t ++ ['\n'])
  | doubleQuoted : WrittenAs t .doubleQuoted (writeDouble t ++ ['\n'])

theorem writtenAs (t : Text) : WrittenAs t (style t) (writeText t) := by
  unfold writeText style
  -- In the order of the writer, each style with what its test has found out.
  by_cases hfeed : t.contains '\n' = true
  · rw [if_pos hfeed]
    by_cases hallows : allowsBlock t = true
    · rw [if_pos hallows]
      simp only [allowsBlock, Bool.not_eq_true', Bool.or_eq_false_iff] at hallows
      refine .literal hallows.2 ?_
      rintro rfl
      cases hfeed
    · rw [if_neg hallows]
      exact .doubleQuoted
  · rw [if_neg hfeed]
    by_cases hplain : (isText t && allowsPlain t) = true
    · rw [if_pos hplain]
      rw [Bool.and_eq_true] at hplain
      refine .plain hplain.2 ?_
      rintro rfl
      cases hplain.1
    · rw [if_neg hplain]
      by_cases hallows : allowsSingle t = true
      · rw [if_pos hallows]
        exact .singleQuoted hallows (by simpa using hfeed)
      · rw [if_neg hallows]
        exact .doubleQuoted

/-- Texts are written in printable characters. -/
theorem WrittenAs.isPrintable_of_mem {t : Text} {style : ScalarStyle} {written : Text}
    (h : WrittenAs t style written) : ∀ d ∈ written, isPrintable d = true := by
  have hsound : hasSpecial t = false → ∀ c ∈ t, isPrintable c = true :=
    fun hspecial c hc => by simpa using List.any_eq_false.1 hspecial c hc
  have hfeed : ∀ d ∈ ['\n'], isPrintable d = true := List.all_eq_true.1 rfl
  have happend : ∀ {u v : Text}, (∀ d ∈ u, isPrintable d = true) →
      (∀ d ∈ v, isPrintable d = true) → ∀ d ∈ u ++ v, isPrintable d = true :=
    fun hu hv d hd => (List.mem_append.1 hd).elim (hu d) (hv d)
  -- A text with special characters is written between double quotes, which escape them.
  cases h with
  | literal hspecial hne =>
    refine happend (isPrintable_writeLiteral (hsound hspecial)) ?_
    unfold blockEnd
    split
    · exact nofun
    · exact hfeed
  | plain hallows hne =>
    exact happend (fun c hc => ((isPlain_of_allowsPlain hallows).chars c hc).1) hfeed
  | singleQuoted hallows _ =>
    simp only [allowsSingle, Bool.not_eq_true', Bool.or_eq_false_iff] at hallows
    exact happend (isPrintable_writeSingle (hsound hallows.2)) hfeed
  | doubleQuoted => exact happend (isPrintable_writeDouble t) hfeed

/-! ### The lexer within a block -/

namespace Lexer

variable {l l' l'' : Lexer} {rest u name next : Text} {mark m : Mark} {allowed allowed' : Bool}
  {indent indent' : Int} {outer outer' : List Int} {tokens : List Token} {c : Char} {k n : Nat}

/-- The lexer within a block, where no key is open. -/
def inBlock (rest : Text) (mark : Mark) (allowed : Bool) (indent : Int) (outer : List Int)
    (tokens : List Token) : Lexer :=
  ⟨rest, mark, 0, indent, outer, allowed, [none], tokens.length, tokens.reverse⟩

theorem start_eq (t : Text) : start t = inBlock t .start true (-1) [] [] := rfl

/-- One more token. -/
theorem emit_inBlock (rest : Text) (mark : Mark) (allowed : Bool) (indent : Int) (outer : List Int)
    (tokens : List Token) (token : Token) :
    (inBlock rest mark allowed indent outer tokens).emit token
      = inBlock rest mark allowed indent outer (tokens ++ [token]) := by
  simp [inBlock, emit]

/-- Blocks that are over end. -/
theorem closeBlocks_inBlock {column : Int}
    (hends : endedBlocks column indent outer = (n, indent', outer')) :
    (inBlock rest mark allowed indent outer tokens).closeBlocks column
      = inBlock rest mark allowed indent' outer' (tokens ++ List.replicate n .blockEnd) := by
  have hflow : (inBlock rest mark allowed indent outer tokens).inFlow = false := rfl
  rw [closeBlocks, hflow, if_neg Bool.false_ne_true]
  simp only [inBlock, hends, List.length_append, List.length_replicate, List.reverse_append,
    List.reverse_replicate]

/-- Reads the token ahead, or ends all blocks at the end of the text. -/
def ahead (l : Lexer) : Except Fault Lexer :=
  match l.rest with
  | [] => (l.closeBlocks (-1)).dropKey
  | c :: rest => l.token c rest

/-- Reading goes on after blanks, and ends the blocks that are over. -/
theorem next_inBlock (hpass : passBlanks false false allowed rest mark = (u, m, allowed'))
    (hends : endedBlocks m.column indent outer = (n, indent', outer')) :
    (inBlock rest mark allowed indent outer tokens).next
      = (inBlock u m allowed' indent' outer' (tokens ++ List.replicate n .blockEnd)).ahead := by
  have hnext : (inBlock rest mark allowed indent outer tokens).next
      = ((inBlock (passBlanks false false allowed rest mark).1
          (passBlanks false false allowed rest mark).2.1
          (passBlanks false false allowed rest mark).2.2 indent outer tokens).closeBlocks
            (passBlanks false false allowed rest mark).2.1.column).ahead := rfl
  rw [hnext, hpass]
  exact congrArg ahead (closeBlocks_inBlock hends)

/-! ### Before a line -/

theorem passBlanks_startsName (hu : StartsName u) (allowed : Bool) (m : Mark) :
    passBlanks false false allowed u m = (u, m, allowed) := by
  cases u with
  | nil => rfl
  | cons c u =>
    have hc := hu c rfl
    -- A name begins with none of the characters that are passed over.
    have hbom : c ≠ byteOrderMark := ne_of_isNameChar hc (by decide)
    have hne : c ≠ '#' ∧ c ≠ ' ' ∧ c ≠ '\t' :=
      ⟨ne_of_isNameChar hc rfl, ne_of_isNameChar hc rfl, ne_of_isNameChar hc rfl⟩
    rw [passBlanks]
    simp [isBreak_of_isNameChar hc, hne, hbom]

theorem passBlanks_replicate (u : Text) (allowed : Bool) (k : Nat) :
    ∀ m : Mark, passBlanks false false allowed (List.replicate k ' ' ++ u) m
      = passBlanks false false allowed u (m.skip k) := by
  induction k with
  | zero => exact fun m => rfl
  | succ k ih =>
    intro m
    have hpass : passBlanks false false allowed (' ' :: (List.replicate k ' ' ++ u)) m
        = passBlanks false false allowed (List.replicate k ' ' ++ u) (m.pass ' ') := by
      rw [passBlanks]
      simp [show isBreak ' ' = false from rfl]
    rw [List.replicate_succ, List.cons_append, hpass, ih]
    congr 1
    simp [Mark.pass, Mark.skip, show ' '.utf8Size = 1 from rfl]
    omega

/-- The spaces before a line are passed over. -/
theorem passBlanks_line (hnext : IsLine next) (allowed : Bool) (line : Nat) :
    passBlanks false false allowed next ⟨line, 0, 0⟩
      = (content next, ⟨line, indentation next, indentation next⟩, allowed) := by
  have hpass := passBlanks_replicate (content next) allowed (indentation next) ⟨line, 0, 0⟩
  rw [replicate_append_content, passBlanks_startsName hnext.startsName] at hpass
  simpa [Mark.skip] using hpass

/-- The lexer is about to read a line. -/
def AtLine (l : Lexer) (next : Text) (indent : Int) (outer : List Int) (tokens : List Token) :
    Prop :=
  ∃ rest mark allowed line, l = inBlock rest mark allowed indent outer tokens ∧
    passBlanks false false allowed rest mark
      = (content next, ⟨line, indentation next, indentation next⟩, true)

theorem atLine_start (hnext : IsLine next) : (start next).AtLine next (-1) [] [] :=
  ⟨next, .start, true, 0, rfl, passBlanks_line hnext true 0⟩

theorem atLine_content (hnext : IsLine next) (line : Nat) :
    (inBlock (content next) ⟨line, indentation next, indentation next⟩ true indent outer
      tokens).AtLine next indent outer tokens :=
  ⟨_, _, _, line, rfl, passBlanks_startsName hnext.startsName _ _⟩

theorem atLine_feed (hnext : IsLine next) (mark : Mark) (allowed : Bool) :
    (inBlock ('\n' :: next) mark allowed indent outer tokens).AtLine next indent outer tokens := by
  refine ⟨_, _, _, mark.line + 1, rfl, ?_⟩
  rw [passBlanks, if_pos (show isBreak '\n' = true from rfl)]
  rw [Bool.not_false, Bool.or_true]
  exact passBlanks_line hnext true (mark.line + 1)

/-! ### Runs -/

/-- In `k` steps a run of one lexer becomes one of the other. -/
def Reaches (k : Nat) (l l' : Lexer) : Prop :=
  ∀ n, l.run (n + k) = l'.run n

theorem Reaches.trans {j : Nat} (h : Reaches j l l') (h' : Reaches k l' l'') :
    Reaches (k + j) l l'' := by
  intro n
  rw [← Nat.add_assoc, h, h']

theorem reaches_next (hrest : l.rest ≠ []) (hnext : l.next = .ok l') : Reaches 1 l l' := by
  intro n
  rw [run, if_neg (by simpa using hrest), hnext]
  rfl

/-! ### Plain scalars -/

/-- The indicators that no plain scalar begins with, whatever comes after them. -/
def firmIndicators : Text :=
  "#,[]\x7b\x7d&*!|>'\"%@\x60".toList

/-- A plain scalar can begin with `c` before `rest`. -/
structure BeginsPlain (c : Char) (rest : Text) : Prop where
  ne_of_mem : ∀ d ∈ firmIndicators, c ≠ d
  startsBlank_eq : c = '?' ∨ c = '-' ∨ c = ':' → startsBlank rest = false
  isBlank_eq : isBlank c = false

theorem beginsPlain_of_isNameChar (hc : isNameChar c = true) (rest : Text) :
    BeginsPlain c rest where
  ne_of_mem := by
    intro d hd
    have hnone : firmIndicators.any isNameChar = false := rfl
    exact ne_of_isNameChar hc (by simpa using List.any_eq_false.1 hnone d hd)
  startsBlank_eq := by
    rintro (rfl | rfl | rfl) <;> cases hc
  isBlank_eq := isBlank_of_isNameChar hc

theorem BeginsPlain.startsPlain (h : BeginsPlain c rest) : startsPlain false c rest = true := by
  -- Three indicators may begin a plain scalar, if no blank follows them.
  by_cases hsign : c = '?' ∨ c = '-' ∨ c = ':'
  · have hrest := h.startsBlank_eq hsign
    have hblank : rest.head?.any isBlank = false := by
      cases rest with
      | nil => rfl
      | cons d rest => exact (Bool.or_eq_false_iff.1 hrest).1
    rcases hsign with rfl | rfl | rfl <;> simp [Lexer.startsPlain, hrest, hblank]
  · have hindicator : isIndicator c = false := by
      have hall : "-?:,[]\x7b\x7d#&*!|>'\"%@\x60".toList.all (fun d =>
          d == '?' || d == '-' || d == ':' || firmIndicators.contains d) = true := rfl
      rw [isIndicator, ← Bool.not_eq_true, List.contains_iff_mem]
      intro hmem
      have hcases := List.all_eq_true.1 hall c hmem
      simp only [Bool.or_eq_true, beq_iff_eq, List.contains_iff_mem, or_assoc] at hcases
      rcases hcases with hc | hc | hc | hc
      · exact hsign (Or.inl hc)
      · exact hsign (Or.inr (Or.inl hc))
      · exact hsign (Or.inr (Or.inr hc))
      · exact h.ne_of_mem c hc rfl
    simp [Lexer.startsPlain, hindicator, h.isBlank_eq]

/-- A scalar that begins plain is read as a plain one. -/
theorem BeginsPlain.token (h : BeginsPlain c rest) (hflow : l.inFlow = false)
    (hstart : l.mark.column = 0 → c ≠ '-' ∧ c ≠ '.') : l.token c rest = l.plain := by
  have hne : ∀ d ∈ firmIndicators, (c == d) = false :=
    fun d hd => beq_false_of_ne (h.ne_of_mem d hd)
  -- At the start of a line the markers of documents are looked for first.
  have hmarker : ∀ d, (d = '-' ∨ d = '.') →
      ((l.mark.column == 0) && startsMarker d (c :: rest)) = false := by
    intro d hd
    cases hcolumn : l.mark.column == 0 with
    | false => rfl
    | true =>
      have hc := hstart (by simpa using hcolumn)
      have hcd : (c == d) = false := by
        rcases hd with rfl | rfl
        · exact beq_false_of_ne hc.1
        · exact beq_false_of_ne hc.2
      unfold startsMarker
      split
      · next heq =>
        cases heq
        simp [hcd]
      · rfl
  have hsign : ∀ d, (d = '?' ∨ d = '-' ∨ d = ':') → (c == d && startsBlank rest) = false := by
    intro d hd
    cases hcd : c == d with
    | false => rfl
    | true =>
      rw [h.startsBlank_eq (by rwa [eq_of_beq hcd]), Bool.and_false]
  rw [Lexer.token]
  simp only [hflow, hne '%' (by decide), hne '[' (by decide), hne '{' (by decide),
    hne ']' (by decide), hne '}' (by decide), hne ',' (by decide), hne '*' (by decide),
    hne '&' (by decide), hne '!' (by decide), hne '|' (by decide), hne '>' (by decide),
    hne '\'' (by decide), hne '"' (by decide), hmarker '-' (Or.inl rfl), hmarker '.' (Or.inr rfl),
    hsign '-' (Or.inr (Or.inl rfl)), hsign '?' (Or.inl rfl), hsign ':' (Or.inr (Or.inr rfl)),
    h.startsPlain, Bool.and_false, Bool.false_and, Bool.false_or, Bool.false_eq_true, if_false,
    if_true]

/-! ### Names -/

/-- The lexer within a block after what can be a key. -/
def inKey (rest : Text) (mark : Mark) (key : PossibleKey) (indent : Int) (outer : List Int)
    (tokens : List Token) : Lexer :=
  { inBlock rest mark false indent outer tokens with keys := [some key] }

/-- A name can be a key. -/
theorem ahead_name (hname : IsName name) (hu : startsBlank u = true) (hindent : indent ≤ m.column)
    (outer : List Int) (tokens : List Token) :
    ∃ required, (inBlock (name ++ ':' :: u) m true indent outer tokens).ahead
      = .ok (inKey (':' :: u) (m.passAll name) ⟨required, tokens.length, m⟩ indent outer
          (tokens ++ [.scalar .plain name])) := by
  obtain ⟨f, htext, hended, hread⟩ := scanPlain_name (m := m) hname.isNameChar_of_mem hu
    (show (indent + 1).toNat ≤ m.column + 1 by omega)
  refine ⟨indent == (m.column : Int), ?_⟩
  obtain ⟨c, name', rfl⟩ := List.exists_cons_of_ne_nil hname.ne_nil
  have hc : isNameChar c = true := hname.isNameChar_of_mem c List.mem_cons_self
  -- A name begins a plain scalar, which is the key that is possible here.
  have htoken : (inBlock (c :: name' ++ ':' :: u) m true indent outer tokens).ahead
      = (inBlock (c :: name' ++ ':' :: u) m true indent outer tokens).plain :=
    (beginsPlain_of_isNameChar hc (name' ++ ':' :: u)).token rfl
      fun _ => ⟨ne_of_isNameChar hc rfl, ne_of_isNameChar hc rfl⟩
  have hplain : (inBlock (c :: name' ++ ':' :: u) m true indent outer tokens).plain
      = (scanPlain false (indent + 1).toNat .empty false (c :: name' ++ ':' :: u) m >>=
          fun r => pure (((inKey (c :: name' ++ ':' :: u) m
            ⟨indent == (m.column : Int), tokens.length, m⟩ indent outer tokens).allowKey
              r.1.ended).emit (.scalar .plain r.1.text) |>.moveTo r.2.1 r.2.2)) := rfl
  rw [htoken, hplain, hread]
  simp [inKey, inBlock, emit, allowKey, moveTo, hended, htext, bind, Except.bind, pure, Except.pure]

/-- The blocks that are open after a key at a column, and the token that tells of a new one. -/
def openedBlocks (column : Nat) (indent : Int) (outer : List Int) :
    List Token × Int × List Int :=
  if indent < column then ([.blockMappingStart], column, indent :: outer) else ([], indent, outer)

theorem mappingValue_inKey {required : Bool} {scalar : Token} {opened : List Token} {m' : Mark}
    (hopened : openedBlocks m.column indent outer = (opened, indent', outer')) :
    (inKey (':' :: u) m' ⟨required, tokens.length, m⟩ indent outer
        (tokens ++ [scalar])).mappingValue
      = .ok (inBlock u (m'.skip 1) false indent' outer'
          (tokens ++ opened ++ [.key, scalar, .value])) := by
  unfold openedBlocks at hopened
  unfold mappingValue
  by_cases hlt : indent < m.column
  · rw [if_pos hlt] at hopened
    cases hopened
    have htwo : tokens.length + 1 + 1 - tokens.length = 2 := by omega
    simp [inKey, inBlock, insert, openBlock, inFlow, hlt, allowKey, emit, skip, htwo]
    rfl
  · rw [if_neg hlt] at hopened
    cases hopened
    simp [inKey, inBlock, insert, openBlock, inFlow, hlt, allowKey, emit, skip]
    rfl

theorem passAll_le (t : Text) : ∀ m : Mark, (m.passAll t).line = m.line ∧
    (m.passAll t).bytes ≤ m.bytes + 4 * t.length ∧ (m.passAll t).column = m.column + t.length := by
  induction t with
  | nil => exact fun m => ⟨rfl, Nat.le_refl _, rfl⟩
  | cons c t ih =>
    intro m
    have hpass : m.passAll (c :: t) = (m.pass c).passAll t := rfl
    obtain ⟨hline, hbytes, hcolumn⟩ := ih (m.pass c)
    have hsize := c.utf8Size_le_four
    rw [hpass, hline, hcolumn]
    simp only [Mark.pass] at hbytes ⊢
    refine ⟨trivial, ?_, ?_⟩ <;> simp only [List.length_cons] <;> omega

/-- Blocks that are not over stay. -/
theorem endedBlocks_of_le {column : Int} (h : indent ≤ column) (outer : List Int) :
    endedBlocks column indent outer = (0, indent, outer) := by
  cases outer with
  | nil => rfl
  | cons next outer => rw [endedBlocks, if_neg (Int.not_lt.2 h)]

/-- The colon after a key in the same line. -/
theorem next_inKey {required : Bool} (hname : IsName name) (hindent : indent ≤ m.column)
    (hu : startsBlank u = true) :
    (inKey (':' :: u) (m.passAll name) ⟨required, n, m⟩ indent outer tokens).next
      = (inKey (':' :: u) (m.passAll name) ⟨required, n, m⟩ indent outer tokens).mappingValue := by
  obtain ⟨hline, hbytes, hcolumn⟩ := passAll_le name m
  have hpos := List.length_pos_iff.2 hname.ne_nil
  have hlength := hname.length_le
  have hpass : passBlanks false false false (':' :: u) (m.passAll name)
      = (':' :: u, m.passAll name, false) := by
    rw [passBlanks]
    simp [show isBreak ':' = false from rfl, show ':' ≠ byteOrderMark by decide]
  have hfresh : (inKey (':' :: u) (m.passAll name) ⟨required, n, m⟩ indent outer
      tokens).dropStaleKeys
        = .ok (inKey (':' :: u) (m.passAll name) ⟨required, n, m⟩ indent outer tokens) := by
    have hsame : ¬ m.line < (m.passAll name).line := by omega
    have hnear : ¬ m.bytes + 1024 < (m.passAll name).bytes := by omega
    simp [dropStaleKeys, inKey, inBlock, hsame, hnear, bind, Except.bind, pure, Except.pure]
  have hclose : (inKey (':' :: u) (m.passAll name) ⟨required, n, m⟩ indent outer
      tokens).closeBlocks (m.passAll name).column
        = inKey (':' :: u) (m.passAll name) ⟨required, n, m⟩ indent outer tokens := by
    have hends := endedBlocks_of_le (show indent ≤ ((m.passAll name).column : Int) by omega) outer
    simp [closeBlocks, inKey, inBlock, inFlow, hends]
  have hnext : (inKey (':' :: u) (m.passAll name) ⟨required, n, m⟩ indent outer tokens).next
      = (((inKey (':' :: u) (m.passAll name) ⟨required, n, m⟩ indent outer tokens).moveTo
          (passBlanks false false false (':' :: u) (m.passAll name)).1
          (passBlanks false false false (':' :: u) (m.passAll name)).2.1).allowKey
            (passBlanks false false false (':' :: u) (m.passAll name)).2.2).dropStaleKeys
          >>= fun l => (l.closeBlocks l.mark.column).ahead := rfl
  have hstart : ((m.passAll name).column == 0) = false := beq_false_of_ne (by omega)
  rw [hnext, hpass]
  show (inKey (':' :: u) (m.passAll name) ⟨required, n, m⟩ indent outer tokens).dropStaleKeys
    >>= (fun l => (l.closeBlocks l.mark.column).ahead) = _
  rw [hfresh]
  show ((inKey (':' :: u) (m.passAll name) ⟨required, n, m⟩ indent outer tokens).closeBlocks
    (m.passAll name).column).ahead = _
  rw [hclose]
  show (inKey (':' :: u) (m.passAll name) ⟨required, n, m⟩ indent outer tokens).token ':' u = _
  have hmark : (inKey (':' :: u) (m.passAll name) ⟨required, n, m⟩ indent outer tokens).mark.column
      = (m.passAll name).column := rfl
  rw [token, hmark, hstart]
  simp [hu]

/-- The name of a field is read together with its colon, and the blocks that end and begin there. -/
theorem AtLine.reaches_name {opened : List Token} {indent₁ : Int} {outer₁ : List Int}
    {column : Nat} (hl : l.AtLine next indent outer tokens) (hcolumn : indentation next = column)
    (hcontent : content next = name ++ ':' :: u) (hname : IsName name)
    (hu : startsBlank u = true) (hends : endedBlocks column indent outer = (n, indent₁, outer₁))
    (hle : indent₁ ≤ column) (hopened : openedBlocks column indent₁ outer₁
      = (opened, indent', outer')) :
    ∃ m, column + 2 ≤ m.column ∧ Reaches 2 l (inBlock u m false indent' outer'
      (tokens ++ List.replicate n .blockEnd ++ opened ++ [.key, .scalar .plain name, .value])) := by
  subst hcolumn
  obtain ⟨rest, mark, allowed, line, rfl, hpass⟩ := hl
  rw [hcontent] at hpass
  have hrest : rest ≠ [] := by
    rintro rfl
    obtain ⟨c, name', rfl⟩ := List.exists_cons_of_ne_nil hname.ne_nil
    cases hpass
  -- The name, and then the colon.
  obtain ⟨required, hahead⟩ := ahead_name (m := ⟨line, indentation next, indentation next⟩) hname
    hu hle outer₁ (tokens ++ List.replicate n .blockEnd)
  have hfirst := reaches_next hrest ((next_inBlock hpass hends).trans hahead)
  have hcolumn : ((⟨line, indentation next, indentation next⟩ : Mark).passAll name).column
      = indentation next + name.length := (passAll_le name _).2.2
  have hpos := List.length_pos_iff.2 hname.ne_nil
  refine ⟨((⟨line, indentation next, indentation next⟩ : Mark).passAll name).skip 1, ?_,
    hfirst.trans (reaches_next (by simp [inKey, inBlock]) ?_)⟩
  · simp only [Mark.skip]
    omega
  · rw [next_inKey hname hle hu]
    exact mappingValue_inKey (m := ⟨line, indentation next, indentation next⟩) hopened

/-! ### Values -/

/-- What is written after the colon and a space, up to the end of its lines, reads as one token
    whatever line comes next. -/
def IsValue (written : Text) (token : Token) : Prop :=
  ∀ next, IsLine next → ∀ (m : Mark) (outer : List Int) (tokens : List Token), 2 ≤ m.column →
    ∃ l, (inBlock (' ' :: (written ++ next)) m false 2 outer tokens).next = .ok l ∧
      l.AtLine next 2 outer (tokens ++ [token])

/-- The space before a value is passed over. -/
theorem next_value (hbreak : isBreak c = false) (hblank : isBlank c = false) (hne : c ≠ '#')
    (hm : 2 ≤ m.column) (u : Text) (outer : List Int) (tokens : List Token) :
    (inBlock (' ' :: c :: u) m false 2 outer tokens).next
      = (inBlock (c :: u) (m.skip 1) false 2 outer tokens).token c u := by
  have hpass : passBlanks false false false (' ' :: c :: u) m = (c :: u, m.skip 1, false) := by
    have hspace := passBlanks_replicate (c :: u) false 1 m
    have hne' : c ≠ ' ' ∧ c ≠ '\t' := by simpa [isBlank] using hblank
    rw [show List.replicate 1 ' ' ++ c :: u = ' ' :: c :: u from rfl] at hspace
    rw [hspace, passBlanks]
    simp [hbreak, hne, hne', Mark.skip]
  have hle : (2 : Int) ≤ (m.skip 1).column := by
    simp only [Mark.skip]
    omega
  rw [next_inBlock hpass (endedBlocks_of_le hle outer), List.replicate_zero, List.append_nil]
  rfl

theorem isValue_plain {t : Text} (ht : IsPlain t) (hne : t ≠ [])
    (hbegins : ∀ c u, t = c :: u → ∀ next, BeginsPlain c (u ++ '\n' :: next)) :
    IsValue (t ++ ['\n']) (.scalar .plain t) := by
  intro next hnext m outer tokens hm
  obtain ⟨c, u, rfl⟩ := List.exists_cons_of_ne_nil hne
  have hbegin := hbegins c u rfl next
  obtain ⟨f, line, htext, hended, hread⟩ := ht.scanPlain_line (m := m.skip 1) hnext
    (by simp only [Mark.skip]; omega)
  refine ⟨_, ?_, atLine_content hnext line⟩
  rw [List.append_assoc, List.singleton_append, List.cons_append,
    next_value (ht.chars c List.mem_cons_self).2 hbegin.isBlank_eq
      (hbegin.ne_of_mem '#' (by decide)) hm,
    hbegin.token rfl (by simp [inBlock, Mark.skip])]
  have hplain : (inBlock (c :: (u ++ '\n' :: next)) (m.skip 1) false 2 outer tokens).plain
      = (scanPlain false 3 .empty false (c :: (u ++ '\n' :: next)) (m.skip 1) >>=
          fun r => pure ((inBlock r.2.1 r.2.2 r.1.ended 2 outer tokens).emit
            (.scalar .plain r.1.text))) := rfl
  rw [hplain, show c :: (u ++ '\n' :: next) = (c :: u) ++ '\n' :: next from rfl, hread]
  show Except.ok ((inBlock _ _ f.ended 2 outer tokens).emit (.scalar .plain f.text)) = _
  rw [hended, htext, emit_inBlock]

/-- What is read after an opening quote ends at the closing one. -/
theorem isValue_quoted {t body : Text} (single : Bool)
    (hread : ∀ (next : Text) (m : Mark), 0 < m.column → ∃ m',
      (if single then scanSingle .empty (body ++ '\n' :: next) m
        else scanDouble .empty none (body ++ '\n' :: next) m) = .ok (t, '\n' :: next, m')) :
    IsValue ((if single then '\'' else '"') :: body ++ ['\n'])
      (.scalar (if single then .singleQuoted else .doubleQuoted) t) := by
  intro next hnext m outer tokens hm
  obtain ⟨m', hread⟩ := hread next ((m.skip 1).skip 1) (by simp [Mark.skip])
  refine ⟨_, ?_, atLine_feed hnext m' false⟩
  -- A value never stands at the start of a line, where a marker could be.
  have hstart : ((m.skip 1).column == 0) = false := by simp [Mark.skip]
  rw [List.append_assoc, List.singleton_append, List.cons_append,
    next_value (by cases single <;> rfl) (by cases single <;> rfl) (by cases single <;> decide) hm]
  cases single with
  | true =>
    have hquoted : (inBlock ('\'' :: (body ++ '\n' :: next)) (m.skip 1) false 2 outer
        tokens).token '\'' (body ++ '\n' :: next)
          = (scanSingle .empty (body ++ '\n' :: next) ((m.skip 1).skip 1) >>=
            fun r => pure ((inBlock r.2.1 r.2.2 false 2 outer tokens).emit
              (.scalar .singleQuoted r.1))) := by
      simp [token, inBlock, hstart]
      rfl
    rw [if_pos rfl] at hread
    rw [if_pos rfl, hquoted, hread]
    exact congrArg Except.ok (emit_inBlock _ _ _ _ _ _ _)
  | false =>
    have hquoted : (inBlock ('"' :: (body ++ '\n' :: next)) (m.skip 1) false 2 outer
        tokens).token '"' (body ++ '\n' :: next)
          = (scanDouble .empty none (body ++ '\n' :: next) ((m.skip 1).skip 1) >>=
            fun r => pure ((inBlock r.2.1 r.2.2 false 2 outer tokens).emit
              (.scalar .doubleQuoted r.1))) := by
      simp [token, inBlock, hstart]
      rfl
    rw [if_neg Bool.false_ne_true] at hread
    rw [if_neg Bool.false_ne_true, hquoted, hread]
    exact congrArg Except.ok (emit_inBlock _ _ _ _ _ _ _)

theorem isValue_writeSingle {t : Text} (hallows : allowsSingle t = true) (hfeed : '\n' ∉ t) :
    IsValue (writeSingle t ++ ['\n']) (.scalar .singleQuoted t) := by
  obtain ⟨body, hbody, hread⟩ := exists_writeSingle hallows hfeed
  rw [hbody]
  exact isValue_quoted true fun next m hm => hread ('\n' :: next) m (by simp) hm

theorem isValue_writeDouble (t : Text) :
    IsValue (writeDouble t ++ ['\n']) (.scalar .doubleQuoted t) := by
  obtain ⟨body, hbody, hread⟩ := exists_writeDouble t
  rw [hbody]
  exact isValue_quoted false fun next m hm => hread ('\n' :: next) m hm

theorem isValue_writeLiteral {t : Text} (hspecial : hasSpecial t = false) (hne : t ≠ []) :
    IsValue (writeLiteral t ++ blockEnd t) (.scalar .literal t) := by
  intro next hnext m outer tokens hm
  obtain ⟨body, hbody, hread⟩ := exists_writeLiteral hspecial hne
  obtain ⟨line, hread⟩ := hread next ((m.skip 1).skip 1) hnext
  refine ⟨_, ?_, atLine_content hnext line⟩
  have hstart : ((m.skip 1).column == 0) = false := by simp [Mark.skip]
  have hblock : (inBlock ('|' :: (body ++ (blockEnd t ++ next))) (m.skip 1) false 2 outer
      tokens).token '|' (body ++ (blockEnd t ++ next))
        = (scanBlock true 2 (body ++ (blockEnd t ++ next)) ((m.skip 1).skip 1) >>=
          fun r => pure ((inBlock r.2.1 r.2.2 true 2 outer tokens).emit
            (.scalar .literal r.1))) := by
    simp [token, inBlock, hstart, inFlow]
    rfl
  rw [hbody, List.append_assoc, List.cons_append, next_value rfl rfl (by decide) hm, hblock, hread]
  exact congrArg Except.ok (emit_inBlock _ _ _ _ _ _ _)

/-- A text that may be written plain begins so. -/
theorem beginsPlain_of_allowsPlain (hallows : allowsPlain (c :: u) = true) (next : Text) :
    BeginsPlain c (u ++ '\n' :: next) := by
  have hplain := isPlain_of_allowsPlain hallows
  have hcolon := hplain.hasColonBeforeBlank_eq
  rw [hasColonBeforeBlank_cons, Bool.or_eq_false_iff] at hcolon
  simp only [allowsPlain, Bool.not_eq_true', Bool.or_eq_false_iff] at hallows
  -- Of what the writer has tested, the outer spaces and the indicators count here.
  obtain ⟨⟨⟨⟨⟨houter, -⟩, -⟩, hindicator⟩, -⟩, -⟩ := hallows
  simp only [startsIndicator, Bool.or_eq_false_iff] at hindicator
  obtain ⟨⟨⟨hmem, hsign⟩, -⟩, -⟩ := hindicator
  refine ⟨?_, ?_, ?_⟩
  · rintro d hd rfl
    rw [← List.contains_iff_mem, show firmIndicators.contains c = false from hmem] at hd
    cases hd
  · intro hc
    apply startsBlank_append
    rcases hc with rfl | rfl | rfl
    · simpa using hsign
    · simpa using hsign
    · simpa using hcolon.1
  · rw [← Bool.not_eq_true, isBlank_iff (hplain.chars c List.mem_cons_self).1]
    rintro rfl
    simp [hasOuterSpace] at houter

/-- Whatever way a text is written in, it reads back. -/
theorem isValue_of_writtenAs {t : Text} {style : ScalarStyle} {written : Text}
    (h : WrittenAs t style written) : IsValue written (.scalar style t) := by
  cases h with
  | literal hspecial hne => exact isValue_writeLiteral hspecial hne
  | plain hallows hne =>
    refine isValue_plain (isPlain_of_allowsPlain hallows) hne ?_
    rintro c u rfl next
    exact beginsPlain_of_allowsPlain hallows next
  | singleQuoted hallows hfeed => exact isValue_writeSingle hallows hfeed
  | doubleQuoted => exact isValue_writeDouble t

/-- Words and numbers read back. -/
theorem isValue_name (hname : ∀ c ∈ name, isNameChar c = true) (hne : name ≠ []) :
    IsValue (name ++ ['\n']) (.scalar .plain name) := by
  refine isValue_plain (isPlain_of_isNameChar hname) hne ?_
  rintro c u rfl next
  exact beginsPlain_of_isNameChar (hname c List.mem_cons_self) _

end Lexer

end WifiNames.Yaml
