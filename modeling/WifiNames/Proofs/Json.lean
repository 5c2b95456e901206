import WifiNames.Json
import WifiNames.Proofs.Hex
import WifiNames.Proofs.Yaml.Line

namespace WifiNames.Json

/-!
# JSON — a report says what its value is

No two values are printed alike, so whoever reads a report finds the one value that was printed.
Values are compared with whatever is printed behind them: an item is followed by the next one, and a
number would go on with any digit.

* `escaped?`, `escape_append_inj` — a character in a literal, and where it ends.
* `quote_append_inj` — a literal ends at the first quote that is not escaped.
* `kind_eq_of_head?` — the first character tells what kind of value begins.
* `write_append_inj` — a value, the items of a list and the fields of an object, with what follows.
* `pretty_injective` — **no two values are printed alike.**
-/

/-! ### Literals -/

/-- The character that is escaped, and what follows, given what is read behind the backslash. -/
def escaped? : Text → Option (Char × Text)
  | '"' :: rest => some ('"', rest)
  | '\\' :: rest => some ('\\', rest)
  | 'b' :: rest => some ('\x08', rest)
  | 'f' :: rest => some ('\x0C', rest)
  | 'n' :: rest => some ('\n', rest)
  | 'r' :: rest => some ('\r', rest)
  | 't' :: rest => some ('\t', rest)
  | 'u' :: '0' :: '0' :: high :: low :: rest => do
    let h ← Hex.value? high
    let l ← Hex.value? low
    return (Char.ofNat (16 * h + l), rest)
  | _ => none

/-- The digits of a control character are read back. -/
theorem escaped?_control {c : Char} (hc : c.toNat < 0x20) (rest : Text) :
    escaped? ("u00".toList ++ Hex.byte (UInt8.ofNat c.toNat) ++ rest) = some (c, rest) := by
  have hbyte : (UInt8.ofNat c.toNat).toNat = c.toNat := by
    rw [UInt8.toNat_ofNat', Nat.mod_eq_of_lt (by omega)]
  have hhigh := Hex.value?_digit (n := c.toNat / 16) (by omega)
  have hlow := Hex.value?_digit (n := c.toNat % 16) (by omega)
  rw [Hex.byte, hbyte]
  show (do
    let h ← Hex.value? (Hex.digit (c.toNat / 16))
    let l ← Hex.value? (Hex.digit (c.toNat % 16))
    return (Char.ofNat (16 * h + l), rest)) = some (c, rest)
  rw [hhigh, hlow]
  simp [Nat.div_add_mod]

/-- A character stands for itself, or it is read back behind a backslash. -/
theorem escape_cases (c : Char) : (escape c = [c] ∧ c ≠ '"' ∧ c ≠ '\\') ∨
    ∃ code, escape c = '\\' :: code ∧ ∀ rest, escaped? (code ++ rest) = some (c, rest) := by
  unfold escape
  -- All cases but the last escape with one character; the last one looks for control characters.
  split
  case h_8 c hquote hslash _ _ _ _ _ =>
    split
    · rename_i hcontrol
      exact Or.inr ⟨_, rfl, escaped?_control hcontrol⟩
    · exact Or.inl ⟨rfl, hquote, hslash⟩
  all_goals exact Or.inr ⟨_, rfl, fun rest => rfl⟩

/-- A character in a literal tells where it ends. -/
theorem escape_append_inj {c d : Char} {x y : Text} (h : escape c ++ x = escape d ++ y) :
    c = d ∧ x = y := by
  rcases escape_cases c with ⟨hc, -, hslash⟩ | ⟨code, hc, hread⟩ <;>
    rcases escape_cases d with ⟨hd, -, hslash'⟩ | ⟨code', hd, hread'⟩ <;>
    rw [hc, hd] at h
  · exact List.cons.inj h
  · exact absurd (List.cons.inj h).1 hslash
  · exact absurd (List.cons.inj h).1.symm hslash'
  · -- Both are escaped: what is read behind the two backslashes is the same.
    have hcode : code ++ x = code' ++ y := (List.cons.inj h).2
    have hpair := hread x
    rw [hcode, hread' y] at hpair
    exact ⟨(Prod.mk.inj (Option.some.inj hpair)).1.symm, (Prod.mk.inj (Option.some.inj hpair)).2.symm⟩

/-- No character in a literal begins with the quote that ends it. -/
theorem escape_append_ne_quote (c : Char) (x y : Text) : escape c ++ x ≠ '"' :: y := by
  intro h
  rcases escape_cases c with ⟨hc, hquote, -⟩ | ⟨code, hc, -⟩ <;> rw [hc] at h
  · exact hquote (List.cons.inj h).1
  · exact absurd (List.cons.inj h).1 (by decide)

/-- **Literals.** A literal tells its text and where it ends. -/
theorem quote_append_inj {s t x y : Text} (h : quote s ++ x = quote t ++ y) : s = t ∧ x = y := by
  have hbody : s.flatMap escape ++ '"' :: x = t.flatMap escape ++ '"' :: y := by
    simpa [quote] using h
  clear h
  -- Both texts are read character by character, until one of them comes to its quote.
  induction s generalizing t with
  | nil =>
    cases t with
    | nil => exact ⟨rfl, (List.cons.inj hbody).2⟩
    | cons d t =>
      rw [List.flatMap_cons, List.append_assoc] at hbody
      exact absurd hbody.symm (escape_append_ne_quote d _ _)
  | cons c s ih =>
    cases t with
    | nil =>
      rw [List.flatMap_cons, List.append_assoc] at hbody
      exact absurd hbody (escape_append_ne_quote c _ _)
    | cons d t =>
      rw [List.flatMap_cons, List.flatMap_cons, List.append_assoc, List.append_assoc] at hbody
      obtain ⟨rfl, hrest⟩ := escape_append_inj hbody
      obtain ⟨rfl, hx⟩ := ih hrest
      exact ⟨rfl, hx⟩

/-! ### Numbers -/

/-- Whether a text does not go on with a digit. -/
def NoDigitHead (t : Text) : Prop :=
  ∀ c ∈ t.head?, c.isDigit = false

theorem isDigit_of_mem_toString {n : Nat} {c : Char} (hc : c ∈ (toString n).toList) :
    c.isDigit = true := by
  rw [Nat.toString_eq_ofList_toDigits, String.toList_ofList] at hc
  exact Nat.isDigit_of_mem_toDigits (by decide) (by decide) hc

/-- A number tells where it ends, unless a digit follows. -/
theorem toString_append_inj {m n : Nat} {x y : Text} (hx : NoDigitHead x) (hy : NoDigitHead y)
    (h : (toString m).toList ++ x = (toString n).toList ++ y) : m = n ∧ x = y := by
  -- The digits are the longest run of digits on both sides.
  obtain ⟨hdigits, hrest⟩ := Yaml.span_unique h (fun c hc => isDigit_of_mem_toString hc) hx
    (fun c hc => isDigit_of_mem_toString hc) hy
  rw [Nat.toString_eq_ofList_toDigits, Nat.toString_eq_ofList_toDigits, String.toList_ofList,
    String.toList_ofList] at hdigits
  have hvalue := congrArg (fun digits => Nat.ofDigitChars 10 digits 0) hdigits
  simp only [Nat.ofDigitChars_ten_toDigits] at hvalue
  exact ⟨hvalue, hrest⟩

/-! ### Kinds of values -/

/-- The kind of a value, as a number. -/
def kind : Json → Nat
  | .null => 0
  | .bool _ => 1
  | .number _ => 2
  | .text _ => 3
  | .list _ => 4
  | .object _ => 5

/-- The kind of the values that begin with a character. -/
def kindOfHead (c : Char) : Nat :=
  if c = 'n' then 0
  else if c = 't' ∨ c = 'f' then 1
  else if c = '"' then 3
  else if c = '[' then 4
  else if c = '\x7b' then 5
  else 2

theorem kindOfHead_of_isDigit {c : Char} (hc : c.isDigit = true) : kindOfHead c = 2 := by
  -- None of the characters that other values begin with is a digit.
  have hne : ∀ d : Char, d.isDigit = false → c ≠ d := by
    rintro d hd rfl
    rw [hc] at hd
    cases hd
  simp [kindOfHead, hne]

/-- **Kinds.** The first character tells what kind of value begins. -/
theorem head?_write (depth : Nat) (v : Json) :
    (write depth v).head?.map kindOfHead = some v.kind := by
  cases v with
  | null => rfl
  | bool value => cases value <;> rfl
  | number value =>
    obtain ⟨c, digits, hdigits⟩ := List.exists_cons_of_ne_nil
      (l := (toString value).toList) (by simp)
    have hc : c ∈ (toString value).toList := by
      rw [hdigits]
      exact List.mem_cons_self
    rw [write, hdigits, List.head?_cons, Option.map_some,
      kindOfHead_of_isDigit (isDigit_of_mem_toString hc), kind]
  | text value => rfl
  | list items =>
    rw [write]
    split <;> rfl
  | object fields =>
    rw [write]
    split <;> rfl

theorem kind_eq_of_append {depth : Nat} {v w : Json} {x y : Text}
    (h : write depth v ++ x = write depth w ++ y) : v.kind = w.kind := by
  have hv := head?_write depth v
  have hw := head?_write depth w
  cases hwrite : write depth v with
  | nil => simp [hwrite] at hv
  | cons c s =>
    cases hwrite' : write depth w with
    | nil => simp [hwrite'] at hw
    | cons d t =>
      rw [hwrite, hwrite'] at h
      rw [hwrite] at hv
      rw [hwrite', ← (List.cons.inj h).1] at hw
      exact Option.some.inj (hv.symm.trans hw)

/-! ### Lines -/

/-- Whether a text begins with the end of a line. -/
def EndsLine (t : Text) : Prop :=
  t.head? = some '\n'

theorem endsLine_indent (depth : Nat) (x : Text) : EndsLine (indent depth ++ x) := rfl

theorem EndsLine.noDigitHead {t : Text} (h : EndsLine t) : NoDigitHead t := by
  intro c hc
  rw [h] at hc
  cases hc
  decide

theorem endsLine_writeItems {x : Text} (hx : EndsLine x) (depth : Nat) (items : List Json) :
    EndsLine (writeItems depth items ++ x) := by
  cases items with
  | nil => exact hx
  | cons item rest => rw [writeItems]; rfl

theorem endsLine_writeFields {x : Text} (hx : EndsLine x) (depth : Nat)
    (fields : List (String × Json)) : EndsLine (writeFields depth fields ++ x) := by
  cases fields with
  | nil => exact hx
  | cons field rest => rw [writeFields]; rfl

/-- The comma that follows an item unless it is the last. -/
theorem comma_append_inj {last last' : Bool} {x y : Text} (hx : EndsLine x) (hy : EndsLine y)
    (h : (if last then [] else [',']) ++ x = (if last' then [] else [',']) ++ y) :
    last = last' ∧ x = y := by
  cases last <;> cases last'
  · exact ⟨rfl, (List.cons.inj h).2⟩
  · -- A comma on one side only would have to end the line.
    rw [EndsLine, ← show ',' :: x = y from h] at hy
    cases hy
  · rw [EndsLine, show x = ',' :: y from h] at hx
    cases hx
  · exact ⟨rfl, h⟩

theorem noDigitHead_comma {x : Text} (hx : EndsLine x) (last : Bool) :
    NoDigitHead ((if last then [] else [',']) ++ x) := by
  cases last
  · rintro c ⟨⟩
    decide
  · exact hx.noDigitHead

/-! ### Values -/

mutual

/-- **A value, whatever follows.** What is printed tells the value and where it ends. -/
theorem write_append_inj (depth : Nat) (v w : Json) {x y : Text} (hx : NoDigitHead x)
    (hy : NoDigitHead y) (h : write depth v ++ x = write depth w ++ y) : v = w ∧ x = y := by
  have hkind := kind_eq_of_append h
  -- Both values are of one kind, so six cases are left of thirty-six.
  match v, w, hkind with
  | .null, .null, _ => exact ⟨rfl, List.append_cancel_left h⟩
  | .bool value, .bool value', _ =>
    cases value <;> cases value'
    · exact ⟨rfl, List.append_cancel_left h⟩
    · exact absurd (List.cons.inj h).1 (by decide)
    · exact absurd (List.cons.inj h).1 (by decide)
    · exact ⟨rfl, List.append_cancel_left h⟩
  | .number value, .number value', _ =>
    obtain ⟨rfl, hrest⟩ := toString_append_inj hx hy (by simpa only [write] using h)
    exact ⟨rfl, hrest⟩
  | .text value, .text value', _ =>
    obtain ⟨rfl, hrest⟩ := quote_append_inj (by simpa only [write] using h)
    exact ⟨rfl, hrest⟩
  | .list items, .list items', _ =>
    cases items with
    | nil =>
      cases items' with
      | nil => exact ⟨rfl, List.append_cancel_left h⟩
      | cons item' rest' => simp [write, writeItems, indent] at h
    | cons item rest =>
      cases items' with
      | nil => simp [write, writeItems, indent] at h
      | cons item' rest' =>
        -- The items end at the line of the bracket.
        obtain ⟨hitems, hrest⟩ := writeItems_append_inj (depth + 1) (item :: rest) (item' :: rest')
          (endsLine_indent depth (']' :: x)) (endsLine_indent depth (']' :: y)) rfl (by
            simpa [write] using h)
        rw [hitems]
        exact ⟨rfl, (List.cons.inj (List.append_cancel_left hrest)).2⟩
  | .object fields, .object fields', _ =>
    cases fields with
    | nil =>
      cases fields' with
      | nil => exact ⟨rfl, List.append_cancel_left h⟩
      | cons field' rest' => simp [write, writeFields, indent] at h
    | cons field rest =>
      cases fields' with
      | nil => simp [write, writeFields, indent] at h
      | cons field' rest' =>
        obtain ⟨hfields, hrest⟩ := writeFields_append_inj (depth + 1) (field :: rest)
          (field' :: rest') (endsLine_indent depth ('\x7d' :: x))
          (endsLine_indent depth ('\x7d' :: y)) rfl (by simpa [write] using h)
        rw [hfields]
        exact ⟨rfl, (List.cons.inj (List.append_cancel_left hrest)).2⟩

/-- The items of a list. -/
theorem writeItems_append_inj (depth : Nat) (items others : List Json) {x y : Text}
    (hx : EndsLine x) (hy : EndsLine y) (hempty : items.isEmpty = others.isEmpty)
    (h : writeItems depth items ++ x = writeItems depth others ++ y) : items = others ∧ x = y := by
  match items, others, hempty with
  | [], [], _ => exact ⟨rfl, h⟩
  | item :: rest, other :: more, _ =>
    have hsplit : write depth item ++ ((if rest.isEmpty then [] else [',']) ++
        (writeItems depth rest ++ x)) = write depth other ++ ((if more.isEmpty then [] else [',']) ++
          (writeItems depth more ++ y)) := by
      simpa [writeItems] using h
    have hx' := endsLine_writeItems hx depth rest
    have hy' := endsLine_writeItems hy depth more
    obtain ⟨rfl, hcomma⟩ := write_append_inj depth item other (noDigitHead_comma hx' _)
      (noDigitHead_comma hy' _) hsplit
    -- The comma tells on both sides whether there are more items.
    obtain ⟨hlast, hrest⟩ := comma_append_inj hx' hy' hcomma
    obtain ⟨rfl, hend⟩ := writeItems_append_inj depth rest more hx hy hlast hrest
    exact ⟨rfl, hend⟩

/-- The fields of an object. -/
theorem writeFields_append_inj (depth : Nat) (fields others : List (String × Json)) {x y : Text}
    (hx : EndsLine x) (hy : EndsLine y) (hempty : fields.isEmpty = others.isEmpty)
    (h : writeFields depth fields ++ x = writeFields depth others ++ y) :
    fields = others ∧ x = y := by
  match fields, others, hempty with
  | [], [], _ => exact ⟨rfl, h⟩
  | (key, value) :: rest, (key', value') :: more, _ =>
    have hsplit : quote key.toList ++ (": ".toList ++ (write depth value ++
        ((if rest.isEmpty then [] else [',']) ++ (writeFields depth rest ++ x)))) =
        quote key'.toList ++ (": ".toList ++ (write depth value' ++
          ((if more.isEmpty then [] else [',']) ++ (writeFields depth more ++ y)))) := by
      simpa [writeFields] using h
    have hx' := endsLine_writeFields hx depth rest
    have hy' := endsLine_writeFields hy depth more
    obtain ⟨hkey, hvalue⟩ := quote_append_inj hsplit
    obtain ⟨rfl, hcomma⟩ := write_append_inj depth value value' (noDigitHead_comma hx' _)
      (noDigitHead_comma hy' _) (List.append_cancel_left hvalue)
    obtain ⟨hlast, hrest⟩ := comma_append_inj hx' hy' hcomma
    obtain ⟨rfl, hend⟩ := writeFields_append_inj depth rest more hx hy hlast hrest
    rw [String.toList_inj.1 hkey]
    exact ⟨rfl, hend⟩

end

/-- **No two values are printed alike.** -/
theorem pretty_injective : Function.Injective pretty := by
  intro v w h
  have hnil : NoDigitHead [] := fun c hc => by cases hc
  exact (write_append_inj 0 v w hnil hnil (congrArg (· ++ []) h)).1

end WifiNames.Json
