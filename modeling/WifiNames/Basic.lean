namespace WifiNames

/-!
# Bytes and text

A network name travels as bytes without a declared encoding, and is shown as text.  Both are
lists, so that every reader of a name is a recursion on its input.
-/

/-- A network name as received, or any other run of bytes. -/
abbrev Bytes := List UInt8

/-- Text as a list of characters.  Positions in it are counted in the bytes of its UTF-8 form. -/
abbrev Text := List Char

end WifiNames
