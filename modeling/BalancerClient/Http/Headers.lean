import BalancerClient.Text.Utf8

/-!
# Header fields

A message carries named values; a name may occur several times and its values keep their
order.  Names are tokens, kept in lower case; values hold no control character but the tab.

## Main definitions

* `HeaderName.ofText?`, `isHeaderValue` - what may be a name and a value.
* `Headers` - the fields, with `values`, `append`, `insert` and `override`.
* `Headers.sorted` - the fields in the order of their names.
-/

namespace BalancerClient

/-- Whether a character may stand in a header name. -/
def isTokenChar (c : Char) : Bool := c.isAlphanum || "!#$%&'*+-.^_`|~".toList.contains c

/-- The greatest length of a header name. -/
def maxHeaderName : Nat := 65535

/-- The lower-case form of a header name. -/
def HeaderName.ofText? (s : String) : Option String :=
  let cs := s.toList
  if !cs.isEmpty && cs.length ≤ maxHeaderName && cs.all isTokenChar then
    some (String.ofList (cs.map Char.toLower))
  else none

/-- Whether a text may be the value of a header. -/
def isHeaderValue (s : String) : Bool :=
  (Utf8.encode s).all fun b => (32 ≤ b && b != 127) || b == 9

/-- What is wrong with any other text. -/
def invalidHeaderValue : String := "failed to parse header value"

/-- Header fields in the order they were added. -/
structure Headers where
  fields : List (String × String)
  deriving DecidableEq, Repr, Inhabited

namespace Headers

/-- No fields. -/
def empty : Headers := ⟨[]⟩

instance : EmptyCollection Headers := ⟨empty⟩

/-- The values of a name, in order. -/
def values (h : Headers) (name : String) : List String :=
  h.fields.filterMap fun (n, v) => if n = name then some v else none

/-- The first value of a name. -/
def value? (h : Headers) (name : String) : Option String := (h.values name).head?

/-- Whether a name occurs. -/
def has (h : Headers) (name : String) : Bool := h.fields.any fun (n, _) => n == name

/-- Adds a value of a name behind those it has. -/
def append (h : Headers) (name value : String) : Headers := ⟨h.fields ++ [(name, value)]⟩

/-- The fields of all other names. -/
def erase (h : Headers) (name : String) : Headers := ⟨h.fields.filter fun (n, _) => n != name⟩

/-- Gives a name a single value. -/
def insert (h : Headers) (name value : String) : Headers := (h.erase name).append name value

/-- The fields of `h`, those of a name that `other` has replaced by the values there. -/
def override (h other : Headers) : Headers :=
  ⟨(h.fields.filter fun (n, _) => !other.has n) ++ other.fields⟩

/-- The fields of a list of names and values, each of them valid. -/
def ofList? : List (String × String) → Option Headers
  | [] => some empty
  | (name, value) :: rest => do
    let name ← HeaderName.ofText? name
    let tail ← ofList? rest
    if isHeaderValue value then some ⟨(name, value) :: tail.fields⟩ else none

/-- The names, each once, in the order of their first occurrence. -/
def names (h : Headers) : List String := (h.fields.map Prod.fst).eraseDups

/-- The fields in the order of their names; the values of a name keep theirs. -/
def sorted (h : Headers) : List (String × String) :=
  h.fields.mergeSort fun a b => decide (a.1 ≤ b.1)

@[simp] theorem values_empty (name : String) : empty.values name = [] := rfl

@[simp] theorem values_append (h : Headers) (name value n : String) :
    (h.append name value).values n = h.values n ++ if name = n then [value] else [] := by
  by_cases hn : name = n <;> simp [append, values, hn]

theorem has_eq_false_iff (h : Headers) (name : String) :
    h.has name = false ↔ h.values name = [] := by
  simp [has, values, List.any_eq_false, List.filterMap_eq_nil_iff]

theorem values_override (h other : Headers) (name : String) :
    (h.override other).values name =
      if other.has name then other.values name else h.values name := by
  simp only [override, values, List.filterMap_append, List.filterMap_filter]
  by_cases ho : other.has name
  · simp only [ho, if_true]
    rw [List.filterMap_eq_nil_iff.2, List.nil_append]
    rintro ⟨n, v⟩ -
    by_cases hn : n = name
    · subst hn
      simp [ho]
    · simp [hn]
  · have hv := (has_eq_false_iff other name).1 (by simpa using ho)
    simp only [values] at hv
    simp only [ho, hv, List.append_nil]
    congr 1
    funext e
    by_cases he : e.1 = name
    · subst he
      simp [ho]
    · simp [he]

end Headers

end BalancerClient
