/-!
# Labelled records

The one-line form of a value with a name and labelled numbers, as in `Point { x: 1, y: 2 }`.
-/

namespace ZeroTail
namespace Text

/-- A name, then the labelled numbers between braces. -/
def labelled (name : String) (fields : List (String × Nat)) : String :=
  name ++ " \x7b " ++
    ", ".intercalate (fields.map fun (label, number) => label ++ ": " ++ toString number) ++
    " \x7d"

end Text
end ZeroTail
