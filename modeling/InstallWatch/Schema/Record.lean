import InstallWatch.Schema.Scalar

/-!
Reading lists, tables of texts, and records: mappings with known fields. A field may have two names, of which
the first given one counts. What a record does with entries that belong to no field is the record's choice:
most leave them out, some keep them.
-/

namespace InstallWatch.Schema

abbrev Entries := List (Data × Data)

/-- How a path shows an offset from universal time. -/
def offsetKeyText (m : Int) : String :=
  if m = 0 then "datetime.timezone.utc" else "datetime.timezone(" ++ spanText m ++ ")"

def momentKeyText (t : Moment) : String :=
  let parts := [t.date.year, t.date.month, t.date.day, t.hour, t.minute] ++
    (if t.microsecond ≠ 0 then [t.second, t.microsecond]
      else if t.second ≠ 0 then [t.second] else [])
  "datetime.datetime(" ++ ", ".intercalate (parts.map toString) ++
    (match t.offset with
      | none => ""
      | some m => ", tzinfo=" ++ offsetKeyText m) ++ ")"

def bytesKeyText (b : Text.Bytes) : String :=
  let chars := b.map fun x => Char.ofNat x.toNat
  let q := Text.quoteFor chars
  let escaped (c : Char) : List Char :=
    if c.toNat < 0x7F then Text.escaped q c else '\\' :: 'x' :: Text.hexDigits 2 c.toNat
  String.ofList ('b' :: q :: chars.flatMap escaped ++ [q])

/-- A text with the replacement character for each of the three bytes that half of a surrogate pair would take. -/
def textKeyText (s : String) : String :=
  String.ofList (Text.ofPoints ((Text.points s.toList).flatMap fun p =>
    if p.isHalf then List.replicate 3 (.char '\uFFFD') else [p]))

/-- A key as a step of a path. -/
def keyText : Data → String
  | .null => "None"
  | .bool b => if b then "1" else "0"
  | .int n => toString n
  | .float x => Decimal.floatText x
  | .text s => textKeyText s
  | .bytes b => bytesKeyText b
  | .date d => "datetime.date(" ++ ", ".intercalate ([d.year, d.month, d.day].map toString) ++ ")"
  | .moment t => momentKeyText t
  | .list _ | .map _ | .set _ | .endless => ""

/-- The items of a list, each checked at its position. -/
def list {α : Type} (check : Data → Checked α) : Data → Checked (List α)
  | .list items | .set items =>
    .all (items.zipIdx.map fun (d, i) => (check d).under (toString i))
  | _ => .fault .notList

/-- Writes a text under a text key, over the one that is there. -/
def putText (k v : String) : List (String × String) → List (String × String)
  | [] => [(k, v)]
  | e :: es => if e.1 = k then (k, v) :: es else e :: putText k v es

/-- One entry of a table of texts: its key and its value, and the faults of both. -/
def textEntry (e : Data × Data) : Checked (String × String) :=
  let key := ((text e.1).under "[key]").under (keyText e.1)
  let value := (text e.2).under (keyText e.1)
  Prod.mk <$> key <*> value

/-- A mapping from texts to texts. -/
def table : Data → Checked (List (String × String))
  | .map es => (Checked.all (es.map textEntry)).map fun kvs =>
    kvs.foldl (fun acc kv => putText kv.1 kv.2 acc) []
  | _ => .fault .notMapping

/-- The first of the names that has an entry, with the entry. -/
def given? (names : List String) (es : Entries) : Option (String × Data) :=
  names.findSome? fun name => (Data.entry? name es).map (name, ·)

/-- A field with a value for its absence. -/
def field {α : Type} (es : Entries) (names : List String) (absent : α) (check : Data → Checked α) :
    Checked α :=
  match given? names es with
  | some (name, d) => (check d).under name
  | none => .accepted absent

/-- A field that must be there. -/
def required {α : Type} (es : Entries) (names : List String) (check : Data → Checked α) : Checked α :=
  match given? names es with
  | some (name, d) => (check d).under name
  | none => (Checked.fault .missing).under (names.headD "")

/-- A record from the entries of a mapping. -/
def record {α : Type} (title : String) (read : Entries → Checked α) : Data → Checked α
  | .map es => read es
  | _ => .fault (.notRecord title)

/-- The key is a text that holds half of a surrogate pair. -/
def hasBrokenKey (e : Data × Data) : Bool :=
  match e.1 with
  | .text s => (Text.chars? s.toList).isNone
  | _ => false

/-- A record that keeps the entries which belong to no field. It looks at no field if the key of some entry is no
proper text. -/
def keepingRecord {α : Type} (title : String) (read : Entries → Checked α) : Data → Checked α
  | .map es => if es.any hasBrokenKey then .fault .notUtf8 else read es
  | _ => .fault (.notRecord title)

/-- Entries that belong to no field. -/
abbrev Extras := List (String × Data)

/-- The entries that no field has read; their keys have to be texts. -/
def extras (fields : List (List String)) (es : Entries) : Checked Extras :=
  let used := fields.filterMap fun names => (given? names es).map (·.1)
  .all (es.filterMap fun e => match e.1 with
    | .text s => if used.contains s then none else some (.accepted (s, e.2))
    | k => some ((Checked.fault .keyNotText).under (keyText k)))

/-- A record written out: its fields, and over them its extras. -/
def written (fields : List (String × Data)) (kept : Extras) : Data :=
  let entry (kv : String × Data) : Data × Data := (.text kv.1, kv.2)
  .map (kept.foldl (fun acc kv => Data.put (.text kv.1) kv.2 acc) (fields.map entry))

def writtenOption {α : Type} (write : α → Data) : Option α → Data
  | none => .null
  | some a => write a

def writtenTable (kvs : List (String × String)) : Data :=
  .map (kvs.map fun kv => (.text kv.1, .text kv.2))

end InstallWatch.Schema
