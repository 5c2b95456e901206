import WifiNames.Proofs.Scan.Run
import WifiNames.Text.Escape

namespace WifiNames.Escape

/-!
# Escapes — what a text stands for, piece by piece

An escape with `x` takes as many hex digits as there are, up to two, so what a text stands for is not
that of its parts in general.  It is where the first part is read to its end and the second one does
not go on with a digit.

* `pieces_plain`, `pieces_named`, `pieces_x`, `pieces_short`, `pieces_full` — the first piece of a
  text.
* `decode_append` — **decoding part by part.**
* `decode_plain`, `decode_named`, `decode_x`, `decode_short`, `decode_full` — the first byte that a text
  stands for.
-/

/-! ### First pieces -/

variable {c h l : Char} {t rest : Text}

theorem pieces_plain (hc : c ≠ '\\') (rest : Text) :
    pieces (c :: rest) = .plain c :: pieces rest := by
  rw [pieces.eq_def]
  simp [hc]

theorem pieces_named (hc : c ≠ 'x') (rest : Text) :
    pieces ('\\' :: c :: rest) = .named c :: pieces rest := by
  rw [pieces.eq_def]
  simp

theorem pieces_full (hh : Hex.isDigit h = true) (hl : Hex.isDigit l = true) (rest : Text) :
    pieces ('\\' :: 'x' :: h :: l :: rest) = .full h l :: pieces rest := by
  rw [pieces.eq_def]
  simp [hh, hl]

/-- Without a digit, the letter stands for itself. -/
theorem pieces_x (hrest : ∀ c ∈ rest.head?, Hex.isDigit c = false) :
    pieces ('\\' :: 'x' :: rest) = .named 'x' :: pieces rest := by
  rw [pieces.eq_def]
  cases rest with
  | nil => rfl
  | cons c rest => simp [hrest c rfl]

/-- One digit is enough. -/
theorem pieces_short (hh : Hex.isDigit h = true) (hrest : ∀ c ∈ rest.head?, Hex.isDigit c = false) :
    pieces ('\\' :: 'x' :: h :: rest) = .short h :: pieces rest := by
  rw [pieces.eq_def]
  cases rest with
  | nil => simp [hh, pieces]
  | cons c rest => simp [hh, hrest c rfl]

/-! ### Parts -/

/-- **Pieces part by part.** -/
theorem pieces_append (ht : (Scan.run t).2 = []) (hrest : ∀ c ∈ rest.head?, Hex.isDigit c = false) :
    pieces (t ++ rest) = pieces t ++ pieces rest := by
  fun_induction pieces t with
  | case1 => rfl
  -- A lone backslash at the end is not read to its end: the next text would be escaped by it.
  | case2 => cases ht
  | case3 => exact pieces_x hrest
  | case4 h hh => exact pieces_short hh hrest
  -- Two digits: what comes behind them is read to its end, too.
  | case5 h hh l t hl ih =>
    have hdigits := Scan.snd_run_of_escaped ht
    have htail := Scan.snd_run_of_plain (Hex.isBlank_of_isDigit hl).2
      (Scan.snd_run_of_plain (Hex.isBlank_of_isDigit hh).2 hdigits)
    simp only [List.cons_append, pieces_full hh hl, ih htail]
  -- One digit: the character behind it stays no digit with `rest` behind it.
  | case6 h hh l t hl ih =>
    have htail := Scan.snd_run_of_plain (Hex.isBlank_of_isDigit hh).2 (Scan.snd_run_of_escaped ht)
    have hhead : ∀ c ∈ (l :: (t ++ rest)).head?, Hex.isDigit c = false := by simpa using hl
    simp only [List.cons_append, pieces_short hh hhead, ← ih htail]
  | case7 h t hh ih =>
    have htail := Scan.snd_run_of_escaped ht
    have hhead : ∀ c ∈ (h :: (t ++ rest)).head?, Hex.isDigit c = false := by simpa using hh
    simp only [List.cons_append, pieces_x hhead, ← ih htail]
  | case8 d t hd ih => simp only [List.cons_append, pieces_named hd, ih (Scan.snd_run_of_escaped ht)]
  | case9 c t hc ih => simp only [List.cons_append, pieces_plain hc, ih (Scan.snd_run_of_plain hc ht)]

/-- **Decoding part by part.** Where the first part is read to its end and the second one does not
    begin with a digit, they are decoded one by one. -/
theorem decode_append (ht : (Scan.run t).2 = []) (hrest : ∀ c ∈ rest.head?, Hex.isDigit c = false) :
    decode (t ++ rest) = decode t ++ decode rest := by
  rw [decode, pieces_append ht hrest, List.flatMap_append]
  rfl

/-! ### First bytes -/

theorem decode_plain (hc : c ≠ '\\') (rest : Text) :
    decode (c :: rest) = String.utf8EncodeChar c ++ decode rest := by
  rw [decode, pieces_plain hc, List.flatMap_cons]
  rfl

theorem decode_full (hh : Hex.isDigit h = true) (hl : Hex.isDigit l = true) (rest : Text) :
    decode ('\\' :: 'x' :: h :: l :: rest) =
      Hex.join ((Hex.value? h).getD 0) ((Hex.value? l).getD 0) :: decode rest := by
  rw [decode, pieces_full hh hl, List.flatMap_cons]
  rfl

theorem decode_named (hc : c ≠ 'x') (rest : Text) :
    decode ('\\' :: c :: rest) = Piece.namedBytes c ++ decode rest := by
  rw [decode, pieces_named hc, List.flatMap_cons]
  rfl

theorem decode_x (hrest : ∀ c ∈ rest.head?, Hex.isDigit c = false) :
    decode ('\\' :: 'x' :: rest) = 0x78 :: decode rest := by
  rw [decode, pieces_x hrest, List.flatMap_cons]
  rfl

theorem decode_short (hh : Hex.isDigit h = true) (hrest : ∀ c ∈ rest.head?, Hex.isDigit c = false) :
    decode ('\\' :: 'x' :: h :: rest) = Hex.join 0 ((Hex.value? h).getD 0) :: decode rest := by
  rw [decode, pieces_short hh hrest, List.flatMap_cons]
  rfl

/-- An escaped backslash stands for one. -/
theorem decode_backslash (rest : Text) : decode ('\\' :: '\\' :: rest) = 0x5C :: decode rest :=
  decode_named (by decide) rest

end WifiNames.Escape
