/-! Search for one text inside another. -/
namespace LogThrottle.Text

/-- Whether the second list has the first as a contiguous part. -/
def occursIn (needle : List Char) : List Char → Bool
  | [] => needle.isEmpty
  | c :: cs => needle.isPrefixOf (c :: cs) || occursIn needle cs

/-- Whether any of some texts occurs in a given one. -/
def anyOccurs (needles : List String) (s : String) : Bool :=
  needles.any fun n => occursIn n.toList s.toList

end LogThrottle.Text
