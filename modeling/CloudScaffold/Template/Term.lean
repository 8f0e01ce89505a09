import CloudScaffold.Value.Basic
/-!
# Templates

A template is a list of steps that make resources and outputs. What a resource holds is written as
terms over the draft: literals, values of fields, names, references to dependencies and to resources
made earlier in the template. A step or a term may hang on a condition.

Templates are data, so that what holds of all of them can be checked by looking at them.

A template stands for the body of one of TerraForge's template functions, which calls the methods of a
`BuildContext`.
-/
namespace CloudScaffold

/-- How a label is spelled as a name. -/
inductive NameStyle where
  | plain
  /-- Lower case. -/
  | lower
  /-- Lower case, with hyphens for low lines. -/
  | dns
  /-- Lower case, with hyphens for low lines and spaces. -/
  | hyphenated
  deriving DecidableEq, Repr

/-- A condition on the draft. -/
inductive Cond where
  | always
  | never
  /-- A field is switched on. -/
  | flag (field : String)
  /-- A field has the given text. -/
  | equals (field text : String)
  /-- A field has a value that counts as given. -/
  | given (field : String)
  /-- The service has inbound rules. -/
  | inbound
  /-- The template has made a resource under a handle. -/
  | made (handle : String)
  /-- A dependency kind has a resource. -/
  | kind (kind : String)
  | not (c : Cond)
  deriving DecidableEq, Repr

/-- A member of the block that stands for an inbound rule. -/
inductive InboundPart where
  | text (s : String)
  | name
  | port
  | portText
  | cidr
  | cidrList
  /-- A number plus the position of the rule. -/
  | position (first : Nat)
  deriving DecidableEq, Repr

/-- What an attribute or an output holds. -/
inductive Term where
  | lit (v : Value)
  /-- The value of a field. -/
  | field (name : String)
  /-- The value of a field if it counts as given, else that of another. -/
  | fieldOr (name other : String)
  /-- The whole number in a field. -/
  | number (field : String) (default : Int)
  /-- The decimal number in a field. -/
  | decimal (field : String)
  /-- Whether a field is switched on. -/
  | flag (field : String)
  /-- The text of a field; while a flag is on, with an ending that it may have already. -/
  | ending (field flag ending : String)
  /-- The label with a suffix, as a name. -/
  | label (style : NameStyle) (suffix : String)
  /-- The letters and digits of the display name and a suffix, within a length. -/
  | compactName (limit : Nat) (suffix : String)
  /-- A lead and the display name. -/
  | described (lead : String)
  | tags (suffix : String)
  /-- An attribute of the resource of a kind. -/
  | kind (kind attr : String)
  /-- An attribute of a resource made earlier in the template. -/
  | made (handle attr : String)
  /-- The entry of a table for the text of a field, or a default if there is one. -/
  | lookup (field : String) (table : List (String × Term)) (default : List Term)
  | ite (c : Cond) (t e : Term)
  | list (ts : List Term)
  | map (kvs : List (String × Term))
  | block (kvs : List (String × Term))
  | interp (ts : List Term)
  /-- The JSON text of a term. -/
  | json (t : Term)
  /-- A block for each inbound rule; null if there is none. -/
  | inboundBlocks (parts : List (String × InboundPart))
  /-- The ports of the inbound rules, as texts. -/
  | inboundPorts
  /-- The sources of the inbound rules, each once, in order; null if there is none. -/
  | inboundSources
  deriving Inhabited

namespace Term

def text (s : String) : Term := .lit (.str s)

def num (n : Int) : Term := .lit (.int n)

def yes : Term := .lit (.bool true)

def no : Term := .lit (.bool false)

/-- A term that is null unless a condition holds. -/
def onlyIf (c : Cond) (t : Term) : Term := .ite c t (.lit .null)

end Term

/-- A resource to make. -/
structure Addition where
  type : String
  attrs : List (String × Term)
  role : String := "main"
  /-- A data source. -/
  data : Bool := false
  /-- The dependency kind that the resource serves. -/
  kind : String := ""
  /-- A dependency, whatever the phase. -/
  dependency : Bool := false
  /-- What later terms of the template call the resource. -/
  handle : String := ""
  onlyIf : Cond := .always

/-- An output to declare. -/
structure Exposure where
  name : String
  value : Term
  description : String
  sensitive : Bool := false
  onlyIf : Cond := .always

inductive Step where
  /-- Evaluates a term for its faults and for the variables that it declares. -/
  | touch (t : Term)
  | add (a : Addition)
  | output (o : Exposure)

abbrev Template := List Step

end CloudScaffold
