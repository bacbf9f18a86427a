import BalancerClient.Text.Utf8

/-!
# Wire parameters

A call carries named texts, each name once, in ascending order of the names' octets.  The
order is part of the type, so two collections with the same look-ups are equal.

## Main definitions

* `NameLt` - the order of names.
* `Parameters` - the collection, with `insert`, `get?`, `names`.
* `Parameters.ofList` - inserts pairs one after the other, so the last value of a name stays.
-/

namespace BalancerClient

/-- Names are ordered by their UTF-8 octets. -/
def NameLt (a b : String) : Prop := Utf8.encode a < Utf8.encode b

instance (a b : String) : Decidable (NameLt a b) :=
  inferInstanceAs (Decidable (Utf8.encode a < Utf8.encode b))

/-! ## The order of names -/

private theorem octets_trichotomy : ∀ a b : Bytes, a < b ∨ a = b ∨ b < a
  | [], [] => .inr (.inl rfl)
  | [], _ :: _ => .inl (List.nil_lt_cons _ _)
  | _ :: _, [] => .inr (.inr (List.nil_lt_cons _ _))
  | x :: xs, y :: ys => by
    simp only [List.cons_lt_cons_iff, List.cons.injEq]
    rcases Nat.lt_trichotomy x.toNat y.toNat with h | h | h
    · exact .inl (.inl (UInt8.lt_iff_toNat_lt.2 h))
    · have hxy : x = y := UInt8.toNat_inj.1 h
      rcases octets_trichotomy xs ys with h' | h' | h'
      · exact .inl (.inr ⟨hxy, h'⟩)
      · exact .inr (.inl ⟨hxy, h'⟩)
      · exact .inr (.inr (.inr ⟨hxy.symm, h'⟩))
    · exact .inr (.inr (.inl (UInt8.lt_iff_toNat_lt.2 h)))

private theorem octets_trans : ∀ {a b c : Bytes}, a < b → b < c → a < c
  | _, [], _, h, _ => absurd h (List.not_lt_nil _)
  | _, _ :: _, [], _, h => absurd h (List.not_lt_nil _)
  | [], _ :: _, _ :: _, _, _ => List.nil_lt_cons _ _
  | x :: xs, y :: ys, z :: zs, h, h' => by
    rw [List.cons_lt_cons_iff] at *
    rcases h with h | ⟨rfl, h⟩ <;> rcases h' with h' | ⟨rfl, h'⟩
    · exact .inl (UInt8.lt_trans h h')
    · exact .inl h
    · exact .inl h'
    · exact .inr ⟨rfl, octets_trans h h'⟩

private theorem octets_irrefl : ∀ a : Bytes, ¬ a < a
  | [] => List.not_lt_nil _
  | x :: xs => by
    rw [List.cons_lt_cons_iff]
    rintro (h | ⟨-, h⟩)
    · exact UInt8.lt_irrefl _ h
    · exact octets_irrefl xs h

theorem NameLt.trans {a b c : String} (h : NameLt a b) (h' : NameLt b c) : NameLt a c :=
  octets_trans h h'

theorem NameLt.irrefl (a : String) : ¬ NameLt a a := octets_irrefl _

theorem NameLt.ne {a b : String} (h : NameLt a b) : a ≠ b := by
  rintro rfl
  exact NameLt.irrefl _ h

theorem nameLt_trichotomy (a b : String) : NameLt a b ∨ a = b ∨ NameLt b a := by
  rcases octets_trichotomy (Utf8.encode a) (Utf8.encode b) with h | h | h
  · exact .inl h
  · exact .inr (.inl (Utf8.encode_injective h))
  · exact .inr (.inr h)

/-! ## Collections -/

/-- Whether names ascend strictly. -/
def Ascending (entries : List (String × String)) : Prop :=
  entries.Pairwise fun a b => NameLt a.1 b.1

/-- Named texts in ascending order of their names. -/
structure Parameters where
  entries : List (String × String)
  ascending : Ascending entries
  deriving DecidableEq

/-- Sets the text of a name, at its place in the order. -/
def insertEntry (name text : String) : List (String × String) → List (String × String)
  | [] => [(name, text)]
  | (n, t) :: rest =>
    if name = n then (name, text) :: rest
    else if NameLt name n then (name, text) :: (n, t) :: rest
    else (n, t) :: insertEntry name text rest

theorem mem_insertEntry {name text : String} {e : String × String} :
    ∀ {entries : List (String × String)},
      e ∈ insertEntry name text entries → e = (name, text) ∨ e ∈ entries
  | [], h => by simpa [insertEntry] using h
  | (n, t) :: rest, h => by
    rw [insertEntry] at h
    split at h
    · rcases List.mem_cons.1 h with h | h
      · exact .inl h
      · exact .inr (List.mem_cons_of_mem _ h)
    · split at h
      · simpa using h
      · rcases List.mem_cons.1 h with h | h
        · exact .inr (h ▸ List.mem_cons_self)
        · exact (mem_insertEntry h).imp_right (List.mem_cons_of_mem _)

theorem ascending_insertEntry (name text : String) :
    ∀ {entries : List (String × String)}, Ascending entries →
      Ascending (insertEntry name text entries)
  | [], _ => by simp [insertEntry, Ascending]
  | (n, t) :: rest, h => by
    obtain ⟨hn, hrest⟩ := List.pairwise_cons.1 h
    rw [insertEntry]
    split
    · next heq =>
      subst heq
      exact List.pairwise_cons.2 ⟨fun e he => hn e he, hrest⟩
    · next hne =>
      split
      · next hlt =>
        refine List.pairwise_cons.2 ⟨fun e he => ?_, h⟩
        rcases List.mem_cons.1 he with rfl | he
        · exact hlt
        · exact hlt.trans (hn e he)
      · next hnlt =>
        have hgt : NameLt n name := by
          rcases nameLt_trichotomy name n with h | h | h
          · exact absurd h hnlt
          · exact absurd h hne
          · exact h
        refine List.pairwise_cons.2 ⟨fun e he => ?_, ascending_insertEntry name text hrest⟩
        rcases mem_insertEntry he with rfl | he
        · exact hgt
        · exact hn e he

/-- A look-up goes past an entry of another name. -/
theorem lookup_cons_of_ne {β : Type} {k n : String} {t : β} (h : k ≠ n)
    (rest : List (String × β)) : ((n, t) :: rest).lookup k = rest.lookup k := by
  rw [List.lookup_cons, beq_eq_false_iff_ne.2 h]

theorem lookup_insertEntry (name text k : String) :
    ∀ entries : List (String × String),
      (insertEntry name text entries).lookup k =
        if k = name then some text else entries.lookup k
  | [] => by
    by_cases h : k = name
    · simp [insertEntry, h]
    · simp [insertEntry, h, lookup_cons_of_ne h]
  | (n, t) :: rest => by
    rw [insertEntry]
    split
    · next heq =>
      subst heq
      by_cases h : k = name
      · simp [h]
      · simp [h, lookup_cons_of_ne h]
    · next hne =>
      split
      · by_cases h : k = name
        · simp [h]
        · simp [h, lookup_cons_of_ne h]
      · have ih := lookup_insertEntry name text k rest
        by_cases hk : k = n
        · subst hk
          simp [Ne.symm hne]
        · simp [lookup_cons_of_ne hk, ih]

theorem lookup_eq_some_of_mem {k t : String} :
    ∀ {entries : List (String × String)}, Ascending entries → (k, t) ∈ entries →
      entries.lookup k = some t
  | (n, u) :: rest, h, hm => by
    obtain ⟨hn, hrest⟩ := List.pairwise_cons.1 h
    rcases List.mem_cons.1 hm with heq | hm
    · obtain ⟨rfl, rfl⟩ := Prod.mk.inj heq
      simp
    · rw [lookup_cons_of_ne (hn _ hm).ne.symm]
      exact lookup_eq_some_of_mem hrest hm

theorem mem_of_lookup_eq_some {β : Type} {k : String} {t : β} :
    ∀ {entries : List (String × β)}, entries.lookup k = some t → (k, t) ∈ entries
  | [], h => by simp at h
  | (n, u) :: rest, h => by
    by_cases hk : k = n
    · subst hk
      simp at h
      simp [h]
    · rw [lookup_cons_of_ne hk] at h
      exact List.mem_cons_of_mem _ (mem_of_lookup_eq_some h)

theorem eq_of_lookup_eq :
    ∀ {a b : List (String × String)}, Ascending a → Ascending b →
      (∀ k, a.lookup k = b.lookup k) → a = b
  | [], [], _, _, _ => rfl
  | [], (n, t) :: _, _, _, h => by simpa using h n
  | (n, t) :: _, [], _, _, h => by simpa using h n
  | (n, t) :: as, (m, u) :: bs, ha, hb, h => by
    obtain ⟨hn, has⟩ := List.pairwise_cons.1 ha
    obtain ⟨hm, hbs⟩ := List.pairwise_cons.1 hb
    have hnm : n = m := by
      rcases nameLt_trichotomy n m with hlt | heq | hlt
      · have hmem : (n, t) ∈ (m, u) :: bs := mem_of_lookup_eq_some (by rw [← h n]; simp)
        rcases List.mem_cons.1 hmem with e | e
        · exact (Prod.mk.inj e).1
        · exact absurd (hlt.trans (hm _ e)) (NameLt.irrefl _)
      · exact heq
      · have hmem : (m, u) ∈ (n, t) :: as := mem_of_lookup_eq_some (by rw [h m]; simp)
        rcases List.mem_cons.1 hmem with e | e
        · exact (Prod.mk.inj e).1.symm
        · exact absurd (hlt.trans (hn _ e)) (NameLt.irrefl _)
    subst hnm
    have htu : t = u := by simpa using h n
    subst htu
    have hrest : as = bs := eq_of_lookup_eq has hbs fun k => by
      by_cases hk : k = n
      · subst hk
        have ha' : as.lookup k = none := by
          rw [Option.eq_none_iff_forall_not_mem]
          exact fun v hv => (hn _ (mem_of_lookup_eq_some hv)).ne rfl
        have hb' : bs.lookup k = none := by
          rw [Option.eq_none_iff_forall_not_mem]
          exact fun v hv => (hm _ (mem_of_lookup_eq_some hv)).ne rfl
        rw [ha', hb']
      · simpa [lookup_cons_of_ne hk] using h k
    rw [hrest]

namespace Parameters

/-- No parameters. -/
def empty : Parameters := ⟨[], List.Pairwise.nil⟩

instance : EmptyCollection Parameters := ⟨empty⟩

instance : Inhabited Parameters := ⟨empty⟩

/-- Sets the text of a name. -/
def insert (p : Parameters) (name text : String) : Parameters :=
  ⟨insertEntry name text p.entries, ascending_insertEntry name text p.ascending⟩

/-- The text of a name. -/
def get? (p : Parameters) (name : String) : Option String := p.entries.lookup name

/-- The names in ascending order. -/
def names (p : Parameters) : List String := p.entries.map Prod.fst

/-- The number of parameters. -/
def size (p : Parameters) : Nat := p.entries.length

/-- Whether there are no parameters. -/
def isEmpty (p : Parameters) : Bool := p.entries.isEmpty

/-- The parameters with pairs inserted one after the other. -/
def insertAll (p : Parameters) (pairs : List (String × String)) : Parameters :=
  pairs.foldl (fun p (name, text) => p.insert name text) p

/-- The parameters of a list of pairs; the last text of a name stays. -/
def ofList (pairs : List (String × String)) : Parameters := empty.insertAll pairs

@[simp] theorem get?_empty (k : String) : empty.get? k = none := rfl

@[simp] theorem get?_insert (p : Parameters) (name text k : String) :
    (p.insert name text).get? k = if k = name then some text else p.get? k :=
  lookup_insertEntry name text k p.entries

@[simp] theorem insertAll_nil (p : Parameters) : p.insertAll [] = p := rfl

@[simp] theorem insertAll_cons (p : Parameters) (e : String × String)
    (pairs : List (String × String)) :
    p.insertAll (e :: pairs) = (p.insert e.1 e.2).insertAll pairs := rfl

theorem insertAll_append (p : Parameters) (a b : List (String × String)) :
    p.insertAll (a ++ b) = (p.insertAll a).insertAll b := List.foldl_append

theorem mem_entries_iff (p : Parameters) (name text : String) :
    (name, text) ∈ p.entries ↔ p.get? name = some text :=
  ⟨lookup_eq_some_of_mem p.ascending, mem_of_lookup_eq_some⟩

/-- Parameters with the same look-ups are equal. -/
@[ext] theorem ext {p q : Parameters} (h : ∀ k, p.get? k = q.get? k) : p = q := by
  have := eq_of_lookup_eq p.ascending q.ascending h
  cases p
  cases q
  simp_all

end Parameters

end BalancerClient
