/-!
Places in a text. An offset counts bytes of UTF-8; lines and columns count from one, and a
column counts characters.
-/

namespace ScriptTypes.Text

structure Position where
  offset : Nat
  line : Nat
  column : Nat
  deriving DecidableEq, Inhabited

def Position.first : Position := ⟨0, 1, 1⟩

def Position.after (p : Position) (c : Char) : Position :=
  if c = '\n' then ⟨p.offset + c.utf8Size, p.line + 1, 1⟩
  else ⟨p.offset + c.utf8Size, p.line, p.column + 1⟩

structure Span where
  start : Position
  stop : Position
  deriving DecidableEq, Inhabited

namespace Span

def char (p : Position) (c : Char) : Span := ⟨p, p.after c⟩

def empty (p : Position) : Span := ⟨p, p⟩

def cover (first last : Span) : Span := ⟨first.start, last.stop⟩

def isOneLine (s : Span) : Bool := s.start.line = s.stop.line

end Span

end ScriptTypes.Text
