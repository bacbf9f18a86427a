import BalancerClient.Message.Shape

/-!
# Columns of message tables

The tables of the catalog list the fields of a message, one a line: what the field holds, its
name on the wire, its label for callers, its rules as they are listed, and for a field with
messages inside the name under which they are checked.
-/

namespace BalancerClient.Catalog.Column

/-- Rules that are listed under one name. -/
def listed (name : String) (rules : List Rule) : List ListedRule := rules.map (⟨name, ·⟩)

/-- A field that holds a text. -/
def text (wire label : String) (listed : List ListedRule) : Field × FieldType :=
  ({ wire, label, listed }, .text)

/-- A field that holds an integer of 32 bits. -/
def int32 (wire label : String) (listed : List ListedRule) : Field × FieldType :=
  ({ wire, label, listed }, .int32)

/-- A field that holds an integer of 64 bits. -/
def int64 (wire label : String) (listed : List ListedRule) : Field × FieldType :=
  ({ wire, label, listed }, .int64)

/-- A field that holds a truth value. -/
def flag (wire label : String) (listed : List ListedRule) : Field × FieldType :=
  ({ wire, label, listed }, .flag)

/-- A field that holds a list of texts. -/
def texts (wire label : String) (listed : List ListedRule) : Field × FieldType :=
  ({ wire, label, listed }, .list .text)

/-- A field that holds a message. -/
def message (type : MessageType) (wire label : String) (listed : List ListedRule)
    (inside : Option String := none) : Field × FieldType :=
  ({ wire, label, listed, inside }, .message type.name type.shape)

/-- A field that holds a list of messages. -/
def messages (type : MessageType) (wire label : String) (listed : List ListedRule)
    (inside : Option String := none) : Field × FieldType :=
  ({ wire, label, listed, inside }, .list (.message type.name type.shape))

end BalancerClient.Catalog.Column
