import ScriptTypes.Value

namespace ScriptTypes

inductive ValueClass where
  | ofType (t : ValueType)
  | textSlice
  | textReference
  | boxedText
  | unit
  | byteVector
  | byteSlice
  | optionalInteger
  | classTag
  deriving DecidableEq

namespace ValueClass

def name : ValueClass → String
  | ofType (.int .u8) => "u8"
  | ofType (.int .i32) => "i32"
  | ofType (.int .i64) => "i64"
  | ofType (.int .u64) => "u64"
  | ofType (.int .i128) => "i128"
  | ofType .f64 => "f64"
  | ofType .bool => "bool"
  | ofType .char => "char"
  | ofType .text => "alloc::string::String"
  | textSlice => "str"
  | textReference => "&str"
  | boxedText => "alloc::boxed::Box<str>"
  | unit => "()"
  | byteVector => "alloc::vec::Vec<u8>"
  | byteSlice => "[u8]"
  | optionalInteger => "core::option::Option<i64>"
  | classTag => "skp_types::value_class::ValueClass"

def debugText (c : ValueClass) : String := "ValueClass(" ++ c.name ++ ")"

def firsts (classes : List ValueClass) : List Bool := mark [] classes
where
  mark (seen : List ValueClass) : List ValueClass → List Bool
    | [] => []
    | c :: rest => (!seen.contains c) :: mark (c :: seen) rest

end ValueClass

end ScriptTypes
