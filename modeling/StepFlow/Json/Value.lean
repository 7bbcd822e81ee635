namespace StepFlow

/-- Objects keep all their members, repeated keys included, in the order in which they stand. Only
plain integers are taken as numbers; a numeral with a fraction, an exponent or a negative zero stays
as it is spelled. A text or a key that spells no sequence of characters makes the value unreadable:
it may be passed over, but nothing can be read from it. -/
inductive Json
  | null
  | bool (value : Bool)
  | integer (value : Int)
  | numeral (spelling : String)
  | text (value : String)
  | unreadable
  | array (items : List Json)
  | object (members : List (String × Json))
  deriving Repr

instance : Inhabited Json := ⟨.null⟩

end StepFlow
