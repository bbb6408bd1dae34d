import GameSource.Initializer.Item
/-!
# The grammar of lists of initializers

Which tokens spell which lists of items (`SpellsItems`), and which spell the declarations of a data table
(`SpellsTable`).  The grammar says nothing of how they are read: brackets are nested in pairs (`Within`), a value ends at
a comma or a closing brace outside brackets, and a comma may stand behind the last item.
-/
namespace GameSource.Initializer

/-! ## Brackets -/

/-- The tokens are brackets in pairs and tokens that open none and, outside the brackets, are no ends.  A closing bracket
that fits no open one counts as any other token. -/
inductive Within : (ends : Token → Bool) → List Token → Prop where
  | nil (ends : Token → Bool) : Within ends []
  | token {ends : Token → Bool} {t : Token} {ts : List Token} (ho : closer? t = none) (he : ends t = false)
      (h : Within ends ts) : Within ends (t :: ts)
  | group {ends : Token → Bool} {t close : Token} {c : Char} {inner ts : List Token} (ho : closer? t = some c)
      (hi : Within (isPunctuator c) inner) (hc : isPunctuator c close) (h : Within ends ts) :
      Within ends (t :: (inner ++ close :: ts))

/-! ## Paths -/

inductive SpellsDesignator : Designator → List Token → Prop where
  | member {point name : Token} (hp : isPunctuator '.' point) (hn : name.kind = .identifier) :
      SpellsDesignator (.member name.text) [point, name]
  | index {opening close : Token} {ts : List Token} (ho : isPunctuator '[' opening) (h : Within (isPunctuator ']') ts)
      (hc : isPunctuator ']' close) : SpellsDesignator (.index ts) (opening :: (ts ++ [close]))

inductive SpellsPath : List Designator → List Token → Prop where
  | nil : SpellsPath [] []
  | cons {d : Designator} {path : List Designator} {ds ts : List Token} (hd : SpellsDesignator d ds)
      (h : SpellsPath path ts) : SpellsPath (d :: path) (ds ++ ts)

/-- What stands before a value: nothing, or a path and an equals sign. -/
inductive SpellsDesignation : List Designator → List Token → Prop where
  | nil : SpellsDesignation [] []
  | path {path : List Designator} {ts : List Token} {equals : Token} (hne : path ≠ []) (h : SpellsPath path ts)
      (he : isPunctuator '=' equals) : SpellsDesignation path (ts ++ [equals])

/-- The tokens begin as a path does. -/
def beginsPath : List Token → Bool
  | [] => false
  | t :: ts => isPunctuator '[' t || (isPunctuator '.' t && ts.head?.any (·.kind == .identifier))

/-! ## Items -/

/-- What ends a value. -/
def endsValue (t : Token) : Bool := isPunctuator ',' t || isPunctuator '\x7d' t

mutual

inductive SpellsItem : Item → List Token → Prop where
  | scalar {path : List Designator} {ds ts : List Token} (hd : SpellsDesignation path ds) (hne : ts ≠ [])
      (h : Within endsValue ts) (hlist : ts.head?.any (isPunctuator '\x7b') = false)
      (hpath : path = [] → beginsPath ts = false) : SpellsItem (.scalar path ts) (ds ++ ts)
  | list {path : List Designator} {items : List Item} {ds ts : List Token} {opening : Token}
      (hd : SpellsDesignation path ds) (ho : isPunctuator '\x7b' opening) (h : SpellsItems items ts) :
      SpellsItem (.list path items) (ds ++ opening :: ts)

/-- The tokens are items with commas between them, or also behind the last one, and the brace that closes the list. -/
inductive SpellsItems : List Item → List Token → Prop where
  | nil {close : Token} (hc : isPunctuator '\x7d' close) : SpellsItems [] [close]
  | last {item : Item} {ts : List Token} {close : Token} (h : SpellsItem item ts) (hc : isPunctuator '\x7d' close) :
      SpellsItems [item] (ts ++ [close])
  | cons {item : Item} {items : List Item} {ts us : List Token} {comma : Token} (h : SpellsItem item ts)
      (hc : isPunctuator ',' comma) (hs : SpellsItems items us) : SpellsItems (item :: items) (ts ++ comma :: us)

end

/-! ## Declarations -/

/-- Array bounds in square brackets, one behind the other. -/
inductive SpellsBounds : List Token → Prop where
  | nil : SpellsBounds []
  | cons {opening close : Token} {bound ts : List Token} (ho : isPunctuator '[' opening)
      (hb : Within (isPunctuator ']') bound) (hc : isPunctuator ']' close) (h : SpellsBounds ts) :
      SpellsBounds (opening :: (bound ++ close :: ts))

/-- The tokens are declarations, one behind the other: a label with bounds or without, an equals sign, a list in braces
and a semicolon. -/
inductive SpellsTable : List (Text × List Item) → List Token → Prop where
  | nil : SpellsTable [] []
  | cons {label equals opening semicolon : Token} {items : List Item} {decls : List (Text × List Item)}
      {bounds ts us : List Token} (hl : label.kind = .identifier) (hb : SpellsBounds bounds)
      (he : isPunctuator '=' equals) (ho : isPunctuator '\x7b' opening) (h : SpellsItems items ts)
      (hs : isPunctuator ';' semicolon) (ht : SpellsTable decls us) :
      SpellsTable ((label.text, items) :: decls) (label :: (bounds ++ equals :: opening :: (ts ++ semicolon :: us)))

end GameSource.Initializer
