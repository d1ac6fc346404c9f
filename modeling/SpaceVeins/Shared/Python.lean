import Mathlib.Data.List.Nodup
import SpaceVeins.Shared.CxxString

/-!
# Values of the Python interpreter

A string is the list of its characters. A dictionary is iterated over in the
order in which its keys came in. An exception that nobody catches ends the
script.
-/

set_option autoImplicit false

namespace Python

inductive PyException where
  | valueError (message : String)
  | indexError (message : String)
deriving DecidableEq, Repr

variable {α β : Type}

@[simp] theorem ok_bind (a : α) (f : α → Except PyException β) : (Except.ok a >>= f) = f a := rfl

@[simp] theorem error_bind (e : PyException) (f : α → Except PyException β) :
    ((Except.error e : Except PyException α) >>= f) = .error e := rfl

@[simp] theorem pure_eq_ok (a : α) : (pure a : Except PyException α) = .ok a := rfl

/-- `str.isspace` of one character. -/
def isSpace (c : Char) : Bool :=
  (9 ≤ c.toNat && c.toNat ≤ 13) || (28 ≤ c.toNat && c.toNat ≤ 32) ||
    (0x2000 ≤ c.toNat && c.toNat ≤ 0x200a) ||
    [0x85, 0xa0, 0x1680, 0x2028, 0x2029, 0x202f, 0x205f, 0x3000].contains c.toNat

/-- `s.split()`: the words between the white space. -/
def words (s : List Char) : List (List Char) := (s.splitOnP isSpace).filter (· ≠ [])

/-- `l[i]`. -/
def getItem (l : List α) (i : Nat) : Except PyException α :=
  match l[i]? with
  | none => .error (.indexError "list index out of range")
  | some a => .ok a

@[simp] theorem getItem_zero (a : α) (l : List α) : getItem (a :: l) 0 = .ok a := rfl

@[simp] theorem getItem_succ (a : α) (l : List α) (i : Nat) :
    getItem (a :: l) (i + 1) = getItem l i := rfl

/-- `l.pop(-1)`, as far as the list is concerned. -/
def pop (l : List α) : Except PyException (List α) :=
  if l = [] then .error (.indexError "pop from empty list") else .ok l.dropLast

@[simp] theorem pop_concat (l : List α) (a : α) : pop (l ++ [a]) = .ok l := by
  simp [pop]

/-- One character of `repr(s)`. Beyond Latin-1 every character counts as printable. -/
def escape (quote c : Char) : List Char :=
  let backslash := Char.ofNat 92
  if c = quote ∨ c = backslash then [backslash, c]
  else match c.toNat with
    | 9 => [backslash, 't']
    | 10 => [backslash, 'n']
    | 13 => [backslash, 'r']
    | n =>
      if n < 32 ∨ (127 ≤ n ∧ n ≤ 160) ∨ n = 173 then
        [backslash, 'x', Nat.digitChar (n / 16), Nat.digitChar (n % 16)]
      else [c]

/-- `repr(s)`, in quotation marks if an apostrophe occurs and no quotation mark. -/
def reprOf (s : List Char) : List Char :=
  let apostrophe := Char.ofNat 39
  let quotationMark := Char.ofNat 34
  let quote := if apostrophe ∈ s ∧ quotationMark ∉ s then quotationMark else apostrophe
  quote :: s.flatMap (escape quote) ++ [quote]

example : reprOf ['1', Char.ofNat 39, '2', Char.ofNat 10] =
    [Char.ofNat 34, '1', Char.ofNat 39, '2', Char.ofNat 92, 'n', Char.ofNat 34] := by decide

/-- `int(s)`: digits, possibly with a sign, with underscores among them and white space around
them. -/
def int (s : List Char) : Except PyException Int :=
  let stripped := ((s.dropWhile isSpace).reverse.dropWhile isSpace).reverse
  let (negative, rest) := CxxString.readSign stripped
  let groups := rest.splitOn '_'
  if groups.all (fun g => !g.isEmpty && g.all Char.isDigit) then
    let value : Int := CxxString.numeral 10 groups.flatten
    .ok (if negative then -value else value)
  else .error (.valueError
    ("invalid literal for int() with base 10: " ++ String.ofList (reprOf s)))

theorem not_isSpace_of_isDigit {c : Char} (h : c.isDigit = true) : isSpace c = false := by
  have hrange := CxxString.isDigit_iff.mp h
  have hge : 48 ≤ c.toNat := hrange.1
  have hle : c.toNat ≤ 57 := hrange.2
  have hfew : ¬ [0x85, 0xa0, 0x1680, 0x2028, 0x2029, 0x202f, 0x205f, 0x3000].contains c.toNat := by
    simp only [List.contains_iff_mem, List.mem_cons, List.not_mem_nil, or_false]
    omega
  simp only [isSpace, Bool.not_eq_true] at hfew ⊢
  rw [hfew]
  simp only [Bool.or_false, Bool.or_eq_false_iff, Bool.and_eq_false_iff, decide_eq_false_iff_not]
  omega

theorem int_digits {s : List Char} (hne : s ≠ []) (h : ∀ c ∈ s, c.isDigit = true) :
    int s = .ok (CxxString.numeral 10 s) := by
  have hkept : ∀ t : List Char, (∀ c ∈ t, c.isDigit = true) → t.dropWhile isSpace = t := by
    intro t ht
    cases t with
    | nil => rfl
    | cons c t =>
      apply List.dropWhile_cons_of_neg
      simp [not_isSpace_of_isDigit (ht c List.mem_cons_self)]
  have hstripped : ((s.dropWhile isSpace).reverse.dropWhile isSpace).reverse = s := by
    rw [hkept s h, hkept _ fun c hc => h c (List.mem_reverse.mp hc), List.reverse_reverse]
  have hsign : CxxString.readSign s = (false, s) := by
    obtain ⟨c, t, rfl⟩ := List.exists_cons_of_ne_nil hne
    have hdigit := h c List.mem_cons_self
    have hminus : c ≠ '-' := by
      rintro rfl
      exact absurd hdigit (by decide)
    have hplus : c ≠ '+' := by
      rintro rfl
      exact absurd hdigit (by decide)
    simp [CxxString.readSign, hminus, hplus]
  have hgroups : s.splitOn '_' = [s] := by
    have hunderscore : '_' ∉ s := fun hc => absurd (h _ hc) (by decide)
    have hparts : ['_'].intercalate [s] = s := by simp [List.intercalate]
    rw [← hparts]
    exact (List.splitOn_intercalate '_' (by simpa using hunderscore) (List.cons_ne_nil _ _)).trans
      (by rw [hparts])
  unfold int
  simp only [hstripped, hsign, hgroups]
  have hall : s.all Char.isDigit = true := List.all_eq_true.mpr h
  simp [hne, hall]

/-- A dictionary whose keys are strings. -/
@[ext] structure Dict (β : Type) where
  items : List (String × β)
  nodup : (items.map Prod.fst).Nodup

namespace Dict
variable {γ : Type}

def empty : Dict β := ⟨[], List.nodup_nil⟩

def insertItem (key : String) (value : β) : List (String × β) → List (String × β)
  | [] => [(key, value)]
  | item :: items =>
    if item.1 = key then (key, value) :: items else item :: insertItem key value items

theorem mem_insertItem_keys {key k : String} {value : β} {items : List (String × β)} :
    k ∈ (insertItem key value items).map Prod.fst ↔ k = key ∨ k ∈ items.map Prod.fst := by
  induction items with
  | nil => simp [insertItem]
  | cons item items ih =>
    unfold insertItem
    by_cases heq : item.1 = key
    · rw [if_pos heq]
      simp [heq]
    · rw [if_neg heq, List.map_cons, List.mem_cons, ih, List.map_cons, List.mem_cons]
      exact or_left_comm

theorem nodup_insertItem {key : String} {value : β} {items : List (String × β)}
    (h : (items.map Prod.fst).Nodup) : ((insertItem key value items).map Prod.fst).Nodup := by
  induction items with
  | nil => simp [insertItem]
  | cons item items ih =>
    rw [List.map_cons, List.nodup_cons] at h
    unfold insertItem
    by_cases heq : item.1 = key
    · rw [if_pos heq, List.map_cons, List.nodup_cons]
      exact ⟨heq ▸ h.1, h.2⟩
    · rw [if_neg heq, List.map_cons, List.nodup_cons]
      refine ⟨fun hmem => ?_, ih h.2⟩
      rcases mem_insertItem_keys.mp hmem with hkey | hold
      · exact heq hkey
      · exact h.1 hold

theorem insertItem_of_not_mem {key : String} {value : β} {items : List (String × β)}
    (h : key ∉ items.map Prod.fst) : insertItem key value items = items ++ [(key, value)] := by
  induction items with
  | nil => rfl
  | cons item items ih =>
    rw [List.map_cons, List.mem_cons, not_or] at h
    rw [insertItem, if_neg (Ne.symm h.1), ih h.2, List.cons_append]

/-- `d[key] = value`. -/
def insert (d : Dict β) (key : String) (value : β) : Dict β :=
  ⟨insertItem key value d.items, nodup_insertItem d.nodup⟩

/-- A loop over the keys that fills another dictionary. -/
def map (f : β → γ) (d : Dict β) : Dict γ :=
  ⟨d.items.map fun item => (item.1, f item.2), by
    rw [List.map_map]
    exact d.nodup⟩

/-- The items of such a loop, if its body can raise an exception. -/
def mapItems (f : β → Except PyException γ) :
    List (String × β) → Except PyException (List (String × γ))
  | [] => .ok []
  | (key, value) :: items => do
    let value ← f value
    let items ← mapItems f items
    pure ((key, value) :: items)

theorem keys_mapItems {f : β → Except PyException γ} {items : List (String × β)} :
    ∀ {items'}, mapItems f items = .ok items' → items'.map Prod.fst = items.map Prod.fst := by
  induction items with
  | nil =>
    intro items' h
    cases h
    rfl
  | cons item items ih =>
    intro items' h
    obtain ⟨key, value⟩ := item
    cases hvalue : f value with
    | error e => simp [mapItems, hvalue] at h
    | ok value' =>
      cases hrest : mapItems f items with
      | error e => simp [mapItems, hvalue, hrest] at h
      | ok rest =>
        simp only [mapItems, hvalue, hrest, ok_bind, pure_eq_ok, Except.ok.injEq] at h
        rw [← h, List.map_cons, List.map_cons, ih hrest]

def mapM (f : β → Except PyException γ) (d : Dict β) : Except PyException (Dict γ) :=
  match h : mapItems f d.items with
  | .error e => .error e
  | .ok items => .ok ⟨items, (keys_mapItems h).symm ▸ d.nodup⟩

/-- The dictionary with an entry for each element of a list. -/
def tabulate (l : List α) (key : α → String) (value : α → β) (h : (l.map key).Nodup) : Dict β :=
  ⟨l.map fun a => (key a, value a), by
    rw [List.map_map]
    exact h⟩

section
variable {l : List α} {key : α → String} {value : α → β} {h : (l.map key).Nodup}

theorem map_tabulate (f : β → γ) :
    (tabulate l key value h).map f = tabulate l key (fun a => f (value a)) h := by
  apply Dict.ext
  simp only [map, tabulate, List.map_map]
  rfl

theorem mapItems_map {f : β → Except PyException γ} {value' : α → γ}
    (hf : ∀ a ∈ l, f (value a) = .ok (value' a)) :
    mapItems f (l.map fun a => (key a, value a)) = .ok (l.map fun a => (key a, value' a)) := by
  induction l with
  | nil => rfl
  | cons a l ih =>
    rw [List.map_cons, mapItems, hf a List.mem_cons_self, ok_bind]
    rw [ih fun b hb => hf b (List.mem_cons_of_mem a hb)]
    rfl

theorem mapM_tabulate {f : β → Except PyException γ} {value' : α → γ}
    (hf : ∀ a ∈ l, f (value a) = .ok (value' a)) :
    (tabulate l key value h).mapM f = .ok (tabulate l key value' h) := by
  have hitems : mapItems f (tabulate l key value h).items = _ := mapItems_map hf
  unfold mapM
  split
  · next e he => exact absurd (he.symm.trans hitems) (by simp)
  · next items hok =>
    have := Except.ok.inj (hok.symm.trans hitems)
    congr 1
    exact Dict.ext this

theorem foldl_insert (h : (l.map key).Nodup) :
    l.foldl (fun d a => d.insert (key a) (value a)) empty = tabulate l key value h := by
  have hgrow : ∀ (l' : List α) (d : Dict β),
      (l'.map key).Nodup → (∀ a ∈ l', key a ∉ d.items.map Prod.fst) →
      (l'.foldl (fun d a => d.insert (key a) (value a)) d).items =
        d.items ++ l'.map fun a => (key a, value a) := by
    intro l'
    induction l' with
    | nil => simp
    | cons a l' ih =>
      intro d hnodup hnew
      rw [List.map_cons, List.nodup_cons] at hnodup
      have hitems : (d.insert (key a) (value a)).items = d.items ++ [(key a, value a)] :=
        insertItem_of_not_mem (hnew a List.mem_cons_self)
      rw [List.foldl_cons, ih _ hnodup.2, hitems, List.append_assoc]
      · rfl
      · intro b hb hmem
        rw [hitems, List.map_append, List.mem_append] at hmem
        rcases hmem with hold | hlast
        · exact hnew b (List.mem_cons_of_mem a hb) hold
        · have heq : key b = key a := by simpa using hlast
          exact hnodup.1 (heq ▸ List.mem_map_of_mem hb)
  apply Dict.ext
  rw [hgrow l empty h (by simp [empty])]
  rfl

end

end Dict
end Python
