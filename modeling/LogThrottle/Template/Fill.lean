import LogThrottle.Template.Argument

/-! Filling a template: each placeholder, an opening brace with a closing one right behind it, takes
the next argument. Placeholders left over stay, arguments left over are never shown, and text that
comes from an argument is not searched for placeholders. -/
namespace LogThrottle.Template

def hasPlaceholder : List Char → Bool
  | '\x7b' :: '\x7d' :: _ => true
  | _ :: rest => hasPlaceholder rest
  | [] => false

/-- Arguments are shown from left to right, and a fault ends the filling. -/
def fillChars : List Char → List Argument → Except Fault (List Char)
  | '\x7b' :: '\x7d' :: rest, arg :: args => do
    let shown ← arg.written
    let tail ← fillChars rest args
    return shown.toList ++ tail
  | '\x7b' :: '\x7d' :: rest, [] => return '\x7b' :: '\x7d' :: (← fillChars rest [])
  | c :: rest, args => return c :: (← fillChars rest args)
  | [], _ => return []

/-- A filled template, and whether it is the template itself, given back without a copy. -/
structure Filled where
  text : String
  unchanged : Bool
  deriving DecidableEq

/-- Without arguments or without a placeholder there is nothing to fill. -/
def fill (template : String) (args : List Argument) : Except Fault Filled :=
  if args.isEmpty || !hasPlaceholder template.toList then .ok ⟨template, true⟩
  else return ⟨String.ofList (← fillChars template.toList args), false⟩

/-- The template as it is, followed by every argument, used or not. -/
def itemise (template : String) (args : List Argument) : Except Fault String := do
  let shown ← args.mapM Argument.written
  return template ++ " <- [" ++ "|".intercalate shown ++ "]"

end LogThrottle.Template
