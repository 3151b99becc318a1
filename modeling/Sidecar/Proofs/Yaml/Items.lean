import Mathlib
import Sidecar.Proofs.Yaml.Tokens

/-!
# Proofs/Yaml/Items — the document of an outline's text

**The document of an outline's text holds the outline's items, and nothing is wrong with it**
(`Document.ofText_written`).  Over the outline's tokens the reader of events goes from key to value
and back: `Makes` says which events it makes on its way, and `makes_outline` follows it down into
the mappings of the outline and up again.
-/

namespace Sidecar.Yaml

/-- The item that an event without an anchor comes to. -/
def Event.item? (e : Event) : Option Item :=
  match e.kind with
  | .scalar none s => some (.scalar s)
  | .mappingStart none => some .mappingStart
  | .mappingEnd => some .mappingEnd
  | _ => none

namespace Reader

/-- A reader makes events and comes to another state. -/
def Makes (r : Reader) (es : List Event) (r' : Reader) : Prop :=
  ∀ fuel, events (es.length + fuel) r = (es ++ (events fuel r').1, (events fuel r').2)

namespace Makes

variable {r r₁ r₂ r₃ : Reader} {es es' : List Event}

theorem refl (r : Reader) : r.Makes [] r := fun fuel => by simp

/-- **Events are made one after the other.** -/
theorem trans (h : r₁.Makes es r₂) (h' : r₂.Makes es' r₃) : r₁.Makes (es ++ es') r₃ := by
  intro fuel
  rw [List.length_append, Nat.add_assoc, h, h']
  simp

theorem cons {e : Event} (hnext : r₁.next = .ok (e, r₂)) (he : e.kind ≠ .streamEnd)
    (h : r₂.Makes es r₃) : r₁.Makes (e :: es) r₃ := by
  intro fuel
  rw [List.length_cons, Nat.add_right_comm, events]
  simp only [hnext, if_neg he, h fuel]
  rfl

/-- **Only the next event counts.** -/
theorem of_next_eq {e : Event} (hnext : r₁.next = r₂.next) (h : r₂.Makes (e :: es) r₃) :
    r₁.Makes (e :: es) r₃ := by
  intro fuel
  rw [← h fuel, List.length_cons, Nat.add_right_comm, events, events, hnext]

end Makes

/-! ## Steps -/

/-- A reader in another phase, in front of other tokens. -/
def facing (r : Reader) (phase : Phase) (tokens : List Token) : Reader := { r with phase, tokens }

section Steps

variable (r : Reader) {t u : Token} (rest : List Token)

/-- **A scalar is a node.** -/
theorem node_scalar {text : List Char} {style : Style} (ht : t.kind = .scalar text style)
    (hr : r.tokens = t :: rest) (mayBeIndentless : Bool) : r.node true mayBeIndentless
      = .ok (⟨.scalar none ⟨text, style, none⟩, t.start⟩, r.skip.leave) := by
  simp [node, peek, ht, hr, properties, resolveTag]

/-- **The start of a mapping is a node, and is not passed.** -/
theorem node_mapping (ht : t.kind = .blockMappingStart) (hr : r.tokens = t :: rest)
    (mayBeIndentless : Bool) : r.node true mayBeIndentless
      = .ok (⟨.mappingStart none, t.start⟩, r.go .blockMappingFirst) := by
  simp [node, peek, ht, hr, properties, resolveTag]

/-- **A key is read in whichever phase it is met.** -/
theorem blockMappingKey_scalar {name : List Char} (ht : t.kind = .key)
    (hu : u.kind = .scalar name .plain) (phase : Phase) :
    (r.facing phase (t :: u :: rest)).blockMappingKey
      = .ok (⟨.scalar none ⟨name, .plain, none⟩, u.start⟩, r.facing .blockMappingValue rest) := by
  have hnode := node_scalar ((r.returnTo .blockMappingValue).facing phase (u :: rest)) rest hu rfl
    true
  simpa [facing, blockMappingKey, peek, ht, hu, nodeUnless, skip, endsPair, returnTo, leave]
    using hnode

/-- A key in a block mapping makes one event. -/
theorem next_key {name : List Char} (ht : t.kind = .key) (hu : u.kind = .scalar name .plain) :
    (r.facing .blockMappingKey (t :: u :: rest)).next
      = .ok (⟨.scalar none ⟨name, .plain, none⟩, u.start⟩, r.facing .blockMappingValue rest) :=
  blockMappingKey_scalar r rest ht hu .blockMappingKey

/-- A scalar makes one event, and the next key is awaited. -/
theorem next_scalar {text : List Char} {style : Style} (ht : t.kind = .value)
    (hu : u.kind = .scalar text style) : (r.facing .blockMappingValue (t :: u :: rest)).next
      = .ok (⟨.scalar none ⟨text, style, none⟩, u.start⟩, r.facing .blockMappingKey rest) := by
  have hnode := node_scalar ((r.returnTo .blockMappingKey).facing .blockMappingValue (u :: rest))
    rest hu rfl true
  simpa [facing, next, blockMappingValue, peek, ht, hu, nodeUnless, skip, endsPair, returnTo, leave]
    using hnode

/-- A mapping within a mapping begins with an event of its own. -/
theorem next_mapping (ht : t.kind = .value) (hu : u.kind = .blockMappingStart) :
    (r.facing .blockMappingValue (t :: u :: rest)).next
      = .ok (⟨.mappingStart none, u.start⟩,
          (r.returnTo .blockMappingKey).facing .blockMappingFirst (u :: rest)) := by
  have hnode := node_mapping ((r.returnTo .blockMappingKey).facing .blockMappingValue (u :: rest))
    rest hu rfl true
  simpa [facing, next, blockMappingValue, peek, ht, hu, nodeUnless, skip, endsPair, returnTo, go]
    using hnode

/-- **A mapping's first token is passed**, and where it stands is noted. -/
theorem next_first {name : List Char} (ht : t.kind = .key) (hu : u.kind = .scalar name .plain)
    (first : Token) : (r.facing .blockMappingFirst (first :: t :: u :: rest)).next
      = (({ r with starts := first.start :: r.starts } : Reader).facing .blockMappingKey
          (t :: u :: rest)).next := by
  rw [next_key _ rest ht hu]
  exact blockMappingKey_scalar { r with starts := first.start :: r.starts } rest ht hu
    .blockMappingFirst

theorem next_end (ht : t.kind = .blockEnd) : (r.facing .blockMappingKey (t :: rest)).next
    = .ok (⟨.mappingEnd, t.start⟩, (r.facing .blockMappingKey rest).close) := by
  simp [facing, next, blockMappingKey, peek, ht, skip]

end Steps

/-- An outline that is not empty begins with a key. -/
theorem exists_kinds {o : Outline} (hne : o ≠ .nil) :
    ∃ name more, o.kinds = .key :: .scalar name .plain :: more := by
  cases o with
  | nil => exact absurd rfl hne
  | _ => exact ⟨_, _, rfl⟩

/-- **A mapping is read from its first token to its last**, if its entries are. -/
theorem makes_mapping {o : Outline} (hne : o ≠ .nil) {ts : List Token}
    (hts : ts.map Token.kind = o.kinds)
    (hentries : ∀ r rest, ∃ es,
      (facing r .blockMappingKey (ts ++ rest)).Makes es (r.facing .blockMappingKey rest) ∧
      es.map Event.item? = o.items.map some)
    (r : Reader) (first : Token) {last : Token} (hlast : last.kind = .blockEnd)
    (rest : List Token) : ∃ es,
      (r.facing .blockMappingFirst (first :: (ts ++ last :: rest))).Makes es
        (r.facing .blockMappingKey rest).leave ∧
      es.map Event.item? = (o.items ++ [Item.mappingEnd]).map some := by
  let inside : Reader := { r with starts := first.start :: r.starts }
  obtain ⟨es, hmakes, hitems⟩ := hentries inside (last :: rest)
  have hend : (inside.facing .blockMappingKey (last :: rest)).Makes [⟨.mappingEnd, last.start⟩]
      (r.facing .blockMappingKey rest).leave := by
    refine .cons ((next_end inside rest hlast).trans ?_) (by simp) (.refl _)
    simp only [close, leave, facing, inside]
    cases r.outer <;> rfl
  have hall := hmakes.trans hend
  -- The first token has no event of its own: the first key is read right behind it.
  obtain ⟨name, more, hkinds⟩ := exists_kinds hne
  obtain ⟨t, _, rfl, ht, u, ts, rfl, hu, -⟩ : ∃ t ts', ts = t :: ts' ∧ t.kind = .key ∧
      ∃ u ts'', ts' = u :: ts'' ∧ u.kind = .scalar name .plain ∧ ts''.map Token.kind = more := by
    simpa only [hkinds, List.map_eq_cons_iff] using hts
  refine ⟨es ++ [⟨.mappingEnd, last.start⟩], ?_, by simp [hitems, Event.item?]⟩
  obtain ⟨e, es', hes⟩ : ∃ e es', es ++ [⟨.mappingEnd, last.start⟩] = e :: es' :=
    List.exists_cons_of_ne_nil (by simp)
  rw [hes] at hall ⊢
  exact hall.of_next_eq (next_first r _ ht hu first)

/-- **An outline is read entry by entry.** -/
theorem makes_outline {o : Outline} (hfilled : o.IsFilled) (r : Reader) {ts : List Token}
    (hts : ts.map Token.kind = o.kinds) (rest : List Token) : ∃ es,
      (r.facing .blockMappingKey (ts ++ rest)).Makes es (r.facing .blockMappingKey rest) ∧
      es.map Event.item? = o.items.map some := by
  induction o generalizing r ts rest with
  | nil =>
    obtain rfl : ts = [] := List.map_eq_nil_iff.mp hts
    exact ⟨[], .refl _, rfl⟩
  | text key v o ih =>
    simp only [Outline.kinds, List.cons_append, List.nil_append, List.map_eq_cons_iff] at hts
    obtain ⟨t₁, _, rfl, h₁, t₂, _, rfl, h₂, t₃, _, rfl, h₃, t₄, ts, rfl, h₄, hts⟩ := hts
    obtain ⟨es, hmakes, hitems⟩ := ih hfilled r hts rest
    exact ⟨_, .cons (next_key r _ h₁ h₂) (by simp) (.cons (next_scalar r _ h₃ h₄) (by simp) hmakes),
      by simp [Event.item?, Outline.items, hitems]⟩
  | number key n o ih =>
    simp only [Outline.kinds, List.cons_append, List.nil_append, List.map_eq_cons_iff] at hts
    obtain ⟨t₁, _, rfl, h₁, t₂, _, rfl, h₂, t₃, _, rfl, h₃, t₄, ts, rfl, h₄, hts⟩ := hts
    obtain ⟨es, hmakes, hitems⟩ := ih hfilled r hts rest
    exact ⟨_, .cons (next_key r _ h₁ h₂) (by simp) (.cons (next_scalar r _ h₃ h₄) (by simp) hmakes),
      by simp [Event.item?, Outline.items, hitems]⟩
  | group key step body o ihBody ihRest =>
    obtain ⟨hbody, hfilledBody, hfilledRest⟩ := hfilled
    simp only [Outline.kinds, List.cons_append, List.nil_append, List.append_assoc,
      List.map_eq_cons_iff, List.map_eq_append_iff] at hts
    obtain ⟨t₁, _, rfl, h₁, t₂, _, rfl, h₂, t₃, _, rfl, h₃, t₄, _, rfl, h₄, ts, _, rfl, hts, t₅,
      ts', rfl, h₅, hts'⟩ := hts
    obtain ⟨es, hmakes, hitems⟩ := makes_mapping hbody hts
      (fun r rest => ihBody hfilledBody r hts rest) (r.returnTo .blockMappingKey) t₄ h₅
      (ts' ++ rest)
    obtain ⟨es', hmakes', hitems'⟩ := ihRest hfilledRest r hts' rest
    have hrest : ts ++ t₅ :: (ts' ++ rest) = (ts ++ t₅ :: ts') ++ rest := by simp
    rw [hrest] at hmakes
    refine ⟨_, .cons (next_key r _ h₁ h₂) (by simp) (.cons (next_mapping r _ h₃ h₄) (by simp)
      (hmakes.trans hmakes')), ?_⟩
    simp [Event.item?, Outline.items, hitems, hitems']

/-! ## Whole documents -/

section Document

/-- A reader of the only document of a stream. -/
def top : Reader := ⟨[], none, .finished, [.documentEnd], [], standardHandles⟩

variable {start last : Token} (rest : List Token)

/-- **A document may begin with its mapping.** -/
theorem makes_start (first : Token) (hstart : start.kind = .blockMappingStart) :
    Makes ⟨first :: start :: rest, none, .streamStart, [], [], []⟩
      [⟨.streamStart, first.start⟩, ⟨.documentStart, start.start⟩,
        ⟨.mappingStart none, start.start⟩]
      (top.facing .blockMappingFirst (start :: rest)) := by
  have hdocument : (⟨start :: rest, none, .document true, [], [], []⟩ : Reader).next
      = .ok (⟨.documentStart, start.start⟩, top.facing .blockNode (start :: rest)) := by
    simp [next, document, peek, go, hstart, isDirective, returnTo, facing, top]
  have hnode : (top.facing .blockNode (start :: rest)).next
      = .ok (⟨.mappingStart none, start.start⟩, top.facing .blockMappingFirst (start :: rest)) :=
    node_mapping _ rest hstart rfl false
  exact .cons rfl (by simp) (.cons hdocument (by simp) (.cons hnode (by simp) (.refl _)))

/-- **A document ends with the stream.** -/
theorem events_end (hlast : last.kind = .streamEnd) (fuel : Nat) :
    events (fuel + 2) (top.facing .blockMappingKey [last]).leave
      = ([⟨.documentEnd, last.start⟩, ⟨.streamEnd, last.start⟩], none) := by
  have hdocument : (top.facing .blockMappingKey [last]).leave.next
      = .ok (⟨.documentEnd, last.start⟩, ⟨[last], none, .document false, [], [], []⟩) := by
    simp [facing, top, leave, next, documentEnd, peek, hlast]
  have hstream : (⟨[last], none, .document false, [], [], []⟩ : Reader).next
      = .ok (⟨.streamEnd, last.start⟩, ⟨[], none, .finished, [], [], []⟩) := by
    simp [next, document, peek, hlast, List.dropWhile, skip, go]
  rw [events, hdocument]
  simp only [reduceCtorEq, if_false]
  rw [events, hstream]
  rfl

end Document

end Reader

/-- **Events that come to items are built into them.** -/
theorem Document.build_items {items : List Item} {es : List Event}
    (h : es.map Event.item? = items.map some) (fault : Option SyntaxError) (b : Builder)
    (rest : List Event) : ∃ placed : List (Item × Position), placed.map Prod.fst = items ∧
      build fault b (es ++ rest)
        = build fault { b with items := placed.reverse ++ b.items } rest := by
  induction es generalizing items b with
  | nil =>
    obtain rfl : items = [] := List.map_eq_nil_iff.mp h.symm
    exact ⟨[], rfl, rfl⟩
  | cons e es ih =>
    obtain ⟨item, items, rfl, hitem, hitems⟩ := List.map_eq_cons_iff.mp h.symm
    obtain ⟨kind, p⟩ := e
    have hbuild : build fault b (⟨kind, p⟩ :: (es ++ rest))
        = build fault (b.push item p) (es ++ rest) := by
      simp only [Event.item?] at hitem
      split at hitem <;> cases hitem <;> rfl
    obtain ⟨placed, rfl, hrest⟩ := ih hitems.symm (b.push item p)
    refine ⟨(item, p) :: placed, rfl, ?_⟩
    rw [List.cons_append, hbuild, hrest]
    simp [Builder.push]

/-- **There are no more items than tokens**, so that the fuel of the tokens lasts for them. -/
theorem Outline.length_items_le (o : Outline) : o.items.length ≤ o.kinds.length := by
  induction o with
  | nil => exact Nat.le_refl _
  | _ =>
    simp only [items, kinds, List.length_append, List.length_cons]
    omega

open Reader in
/-- **The document of an outline's text** holds the outline's items and has no fault. -/
theorem Document.ofText_written {o : Outline} (hfilled : o.IsFilled) (hne : o ≠ .nil)
    (hkeys : ∀ k ∈ o.allKeys, k.chars.length ≤ Scanner.keyReach) {ending : List Char}
    (hending : IsEnding ending) (column : Nat) : ∃ placed : List (Item × Position),
      ofText (o.written column ending) = ⟨placed, [], none, false⟩ ∧
      placed.map Prod.fst = .mappingStart :: (o.items ++ [.mappingEnd]) := by
  obtain ⟨ts, hscan, hkinds⟩ := o.scan_written hfilled hne hkeys hending column
  simp only [List.map_eq_cons_iff, List.map_eq_append_iff, List.map_eq_nil_iff] at hkinds
  obtain ⟨first, _, rfl, -, start, _, rfl, hstart, ts, _, rfl, hts, last, _, rfl, hlast, final, _,
    rfl, hfinal, rfl⟩ := hkinds
  obtain ⟨es, hmakes, hitems⟩ := makes_mapping hne hts
    (fun r rest => makes_outline hfilled r hts rest) top start hlast [final]
  have hall := (makes_start (ts ++ [last, final]) first hstart).trans hmakes
  -- An item takes one token at least, and there is fuel for four events a token.
  have hlength : ∃ fuel, 4 * (first :: start :: (ts ++ [last, final])).length + 4
      = es.length + 3 + (fuel + 2) := by
    have hes : es.length = o.items.length + 1 := by simpa using congrArg List.length hitems
    have hts' : ts.length = o.kinds.length := by simpa using congrArg List.length hts
    have := o.length_items_le
    refine ⟨4 * (ts.length + 4) + 4 - (es.length + 5), ?_⟩
    simp only [List.length_cons, List.length_append, List.length_nil]
    omega
  obtain ⟨fuel, hfuel⟩ := hlength
  have hparse : Event.parse (o.written column ending)
      = (⟨.streamStart, first.start⟩ :: ⟨.documentStart, start.start⟩
          :: ⟨.mappingStart none, start.start⟩
          :: (es ++ [⟨.documentEnd, final.start⟩, ⟨.streamEnd, final.start⟩]), none) := by
    have hevents := hall (fuel + 2)
    rw [events_end hfinal] at hevents
    rw [Event.parse, Reader.start, hscan]
    simp only [hfuel]
    simpa using hevents
  obtain ⟨placed, hplaced, hbuild⟩ := build_items hitems none
    (.push .empty .mappingStart start.start)
    [⟨.documentEnd, final.start⟩, ⟨.streamEnd, final.start⟩]
  refine ⟨(.mappingStart, start.start) :: placed, ?_, by simp [hplaced]⟩
  rw [ofText, hparse]
  simp only [build, Builder.bind]
  rw [hbuild]
  simp [build, Builder.finish, Builder.push, Builder.empty, goesOn]

end Sidecar.Yaml
