import CallTrace.Unicode.Age
import CallTrace.Unicode.Boundary
import CallTrace.Unicode.Script

/-!
# Looking properties up by name

A pattern names a set of characters by a general category, a script, a binary property, or a
property and its value. Names are compared in loose form (`looseName`): case, blanks, hyphens and
underscores do not count, nor does a leading `is`.
-/

namespace CallTrace.Unicode

/-! ## Loose names -/

/-- The name without a leading `is`, in either case. -/
def dropIs : List Char → List Char
  | i :: s :: rest =>
    if (i = 'i' ∨ i = 'I') ∧ (s = 's' ∨ s = 'S') then rest else i :: s :: rest
  | cs => cs

/-- The letters and signs of a name that count, in small letters. -/
def foldName (cs : List Char) : List Char :=
  (cs.filter fun c =>
    decide (c.toNat < 128) && !(c == ' ' || c == '_' || c == '-')).map Char.toLower

/-- The loose form of a name. `isc` is a name of its own and not `c` with a leading `is`. -/
def looseName (name : List Char) : String :=
  let stripped := foldName (dropIs name)
  if (dropIs name).length < name.length ∧ stripped = ['c'] then "isc" else String.ofList stripped

/-! ## General categories -/

/-- The general categories and their groups, by every name they have. -/
def generalCategories : List NamedSet :=
  [ ⟨["any"], fun _ => CharSet.all⟩,
    ⟨["ascii"], fun _ => CharSet.range 0 127⟩,
    ⟨["assigned"], fun _ => assigned⟩,
    ⟨["l", "letter"], fun _ => letters⟩,
    ⟨["lc", "casedletter"], fun _ => casedLetters⟩,
    ⟨["lu", "uppercaseletter"], fun _ => Category.lu.chars⟩,
    ⟨["ll", "lowercaseletter"], fun _ => Category.ll.chars⟩,
    ⟨["lt", "titlecaseletter"], fun _ => Category.lt.chars⟩,
    ⟨["lm", "modifierletter"], fun _ => Category.lm.chars⟩,
    ⟨["lo", "otherletter"], fun _ => Category.lo.chars⟩,
    ⟨["m", "mark", "combiningmark"], fun _ => marks⟩,
    ⟨["mn", "nonspacingmark"], fun _ => Category.mn.chars⟩,
    ⟨["mc", "spacingmark"], fun _ => Category.mc.chars⟩,
    ⟨["me", "enclosingmark"], fun _ => Category.me.chars⟩,
    ⟨["n", "number"], fun _ => numbers⟩,
    ⟨["nd", "decimalnumber", "digit"], fun _ => Category.nd.chars⟩,
    ⟨["nl", "letternumber"], fun _ => Category.nl.chars⟩,
    ⟨["no", "othernumber"], fun _ => Category.no.chars⟩,
    ⟨["p", "punctuation", "punct"], fun _ => punctuation⟩,
    ⟨["pc", "connectorpunctuation"], fun _ => Category.pc.chars⟩,
    ⟨["pd", "dashpunctuation"], fun _ => Category.pd.chars⟩,
    ⟨["ps", "openpunctuation"], fun _ => Category.ps.chars⟩,
    ⟨["pe", "closepunctuation"], fun _ => Category.pe.chars⟩,
    ⟨["pi", "initialpunctuation"], fun _ => Category.pi.chars⟩,
    ⟨["pf", "finalpunctuation"], fun _ => Category.pf.chars⟩,
    ⟨["po", "otherpunctuation"], fun _ => Category.po.chars⟩,
    ⟨["s", "symbol"], fun _ => symbols⟩,
    ⟨["sm", "mathsymbol"], fun _ => Category.sm.chars⟩,
    ⟨["sc", "currencysymbol"], fun _ => Category.sc.chars⟩,
    ⟨["sk", "modifiersymbol"], fun _ => Category.sk.chars⟩,
    ⟨["so", "othersymbol"], fun _ => Category.so.chars⟩,
    ⟨["z", "separator"], fun _ => separators⟩,
    ⟨["zs", "spaceseparator"], fun _ => Category.zs.chars⟩,
    ⟨["zl", "lineseparator"], fun _ => Category.zl.chars⟩,
    ⟨["zp", "paragraphseparator"], fun _ => Category.zp.chars⟩,
    ⟨["c", "other"], fun _ => others⟩,
    ⟨["cc", "control", "cntrl"], fun _ => Category.cc.chars⟩,
    ⟨["cf", "format"], fun _ => Category.cf.chars⟩,
    ⟨["co", "privateuse"], fun _ => Category.co.chars⟩,
    ⟨["cn", "unassigned"], fun _ => unassigned⟩]

/-- The characters of the general category or group with the given name. -/
def generalCategory? (name : String) : Option CharSet := NamedSet.find? generalCategories name

/-! ## Queries -/

/-- The set that a single name stands for: a binary property, else a general category, else a
script. The short names `cf`, `sc` and `lc` are those of categories. -/
def named? (name : List Char) : Option CharSet :=
  let loose := looseName name
  let binary :=
    if loose = "cf" ∨ loose = "sc" ∨ loose = "lc" then none
    else NamedSet.find? binaryProperties loose
  match binary with
  | some s => some s
  | none =>
    match generalCategory? loose with
    | some s => some s
    | none => script? loose

/-- The set that a property and one of its values stand for. -/
def valued? (property value : List Char) : Option CharSet :=
  let value := looseName value
  match looseName property with
  | "gc" | "generalcategory" => generalCategory? value
  | "sc" | "script" => script? value
  | "scx" | "scriptextensions" => scriptExtension? value
  | "age" => assignedBy? value
  | "gcb" | "graphemeclusterbreak" => boundaryClass? graphemeClasses value
  | "wb" | "wordbreak" => boundaryClass? wordClasses value
  | "sb" | "sentencebreak" => boundaryClass? sentenceClasses value
  | _ => none

end CallTrace.Unicode
