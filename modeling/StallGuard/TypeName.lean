/-
  StallGuard.TypeName — one dotted form for the spellings of a type name.

  Hosts name types as descriptors (`Lapp/Db;`), as slashed names (`app/Db`) or as paths
  (`app::Db`). Reports show all of them as `app.Db`.
-/

namespace StallGuard.TypeName

/-- Takes the `L` and the `;` off a descriptor; anything else is left alone. -/
def unwrap : List Char → List Char
  | 'L' :: r => if r.getLast? = some ';' then r.dropLast else 'L' :: r
  | cs => cs

/-- Each pair of colons, from the left, becomes a dot. -/
def dotColons : List Char → List Char
  | ':' :: ':' :: r => '.' :: dotColons r
  | c :: r => c :: dotColons r
  | [] => []

/-- Each slash becomes a dot. -/
def dotSlashes (cs : List Char) : List Char := cs.map fun c => if c = '/' then '.' else c

def dotted (raw : String) : String := String.ofList (dotSlashes (dotColons (unwrap raw.toList)))

end StallGuard.TypeName
