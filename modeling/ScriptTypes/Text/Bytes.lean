namespace ScriptTypes.Text

def bytes (text : String) : List UInt8 := text.toByteArray.data.toList

/-- The offsets at which a word that is not empty is found from left to right in a text that begins
at an offset. Behind each of them the search goes on at the end of the word. -/
def offsetsFrom (word : List UInt8) (offset : Nat) (text : List UInt8) : List Nat :=
  match text with
  | [] => []
  | b :: rest =>
    if word.isPrefixOf (b :: rest) then
      offset :: offsetsFrom word (offset + word.length) (rest.drop (word.length - 1))
    else offsetsFrom word (offset + 1) rest
termination_by text.length

def textBefore? (text : String) (offset : Nat) : Option String :=
  if h : String.Pos.Raw.IsValid text ⟨offset⟩ then some (text.sliceTo (text.pos ⟨offset⟩ h)).copy
  else none

end ScriptTypes.Text
