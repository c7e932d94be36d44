/-
What a parameter of a request comes to.

A request holds what it gives for a key in pairs, in a mapping or not at all. However it is held,
only the last of the values that are given matters.

* `Parameters.mapping?`, `Gives`: the values that parameters give for a key, whatever holds them;
* `Reads`, `Reads.unique`: what comes of the last value that is given, and of none;
* `reads_get`, `reads_mapping`, `reads_pairs`: what comes of the value that is found;
* `reads_of_gives`: it is what comes of the last value that is given;
* `sortText_last`: containers that give the same last value for a key are alike to a sort, whatever
  else they hold.
-/
import QueryOrder.Proofs.Application
import QueryOrder.Proofs.Value.Mapping
import QueryOrder.Session

namespace QueryOrder.Parameters

variable {key : String}

/-! ### What is given -/

/-- The entries of parameters that are a mapping. -/
def mapping? : Parameters → Option (List (Value × Value))
  | pairs _ => none
  | marked entries _ => some entries
  | value (.dict entries) => some entries
  | value _ => none

/-- The values that parameters give for a key, in order. A mapping holds one value for a key at
most. -/
inductive Gives (key : String) : Parameters → List Value → Prop
  /-- Pairs give all that they hold under the key. -/
  | pairs (entries : List (Value × Value)) : Gives key (.pairs entries) (valuesFor key entries)
  /-- A mapping without the key gives nothing. -/
  | missing {p : Parameters} {entries : List (Value × Value)} (hp : p.mapping? = some entries)
      (hheld : (valuesFor key entries).head? = none) : Gives key p []
  /-- Of a list a mapping gives the items. -/
  | list {p : Parameters} {entries : List (Value × Value)} {items : List Value}
      (hp : p.mapping? = some entries)
      (hheld : (valuesFor key entries).head? = some (.list items)) : Gives key p items
  /-- Of a tuple it gives the items as well. -/
  | tuple {p : Parameters} {entries : List (Value × Value)} {items : List Value}
      (hp : p.mapping? = some entries)
      (hheld : (valuesFor key entries).head? = some (.tuple items)) : Gives key p items
  /-- Any other value it gives as the only one. -/
  | single {p : Parameters} {entries : List (Value × Value)} {v : Value}
      (hp : p.mapping? = some entries) (hheld : (valuesFor key entries).head? = some v)
      (hlist : ∀ items, v ≠ .list items) (htuple : ∀ items, v ≠ .tuple items) : Gives key p [v]
  /-- What counts as not given gives nothing. -/
  | absent {v : Value} (hv : v.isTruthy = false) : Gives key (.value v) []

/-- What comes of the last value that is given for a key, if one is given. -/
inductive Reads (key : String) : Option Value → Traced (Option Value) → Prop
  /-- Nothing is given. -/
  | nothing : Reads key none ⟨[], .ok none⟩
  /-- The value is null, which is as good as nothing. -/
  | null : Reads key (some .null) ⟨[], .ok none⟩
  /-- A text is taken as it is. -/
  | text {v : Value} {s : String} (htext : v.text? = some s) :
      Reads key (some v) ⟨[], .ok (some v)⟩
  /-- Anything else is ignored, with one record. -/
  | ignored {v : Value} (hnull : v ≠ .null) (htext : v.text? = none) :
      Reads key (some v)
        ⟨[.debug .binding ("Ignoring non-string " ++ key ++ " parameter: " ++ v.written)], .ok none⟩

namespace Reads

/-- The last value decides what comes of it. -/
lemma unique {o : Option Value} {x y : Traced (Option Value)} (h : Reads key o x)
    (h' : Reads key o y) : x = y := by
  cases h with
  | nothing =>
      cases h'
      rfl
  | null =>
      cases h' with
      | null => rfl
      | text htext => cases htext
      | ignored hnull => exact absurd rfl hnull
  | text htext =>
      cases h' with
      | null => cases htext
      | text => rfl
      | ignored _ hnone => rw [htext] at hnone; cases hnone
  | ignored hnull hnone =>
      cases h' with
      | null => exact absurd rfl hnull
      | text htext => rw [htext] at hnone; cases hnone
      | ignored => rfl

/-- Null stands for nothing. -/
lemma of_getD {o : Option Value} {x : Traced (Option Value)}
    (h : Reads key (some (o.getD .null)) x) : Reads key o x := by
  cases o with
  | none =>
      obtain rfl := h.unique .null
      exact .nothing
  | some v => exact h

end Reads

/-! ### What is found -/

variable {p : Parameters} {entries : List (Value × Value)}

/-- The last of the values that are found decides. -/
lemma reads_get {v : Value} (htruthy : p.isTruthy = true) (hget : p.get key = .ok v) :
    Reads key (some (last v)) (p.sortText key) := by
  rw [sortText, if_pos htruthy, hget, Traced.liftM_ok_bind]
  dsimp only
  rcases htext : (last v).text? with _ | s
  · by_cases hnull : last v = .null
    · rw [hnull]
      exact .null
    · split
      · next heq => cases heq
      · next heq => exact absurd heq hnull
      · exact .ignored hnull htext
  · exact .text htext

/-- Parameters that do not count as given come to nothing. -/
lemma sortText_of_falsy (h : p.isTruthy = false) : p.sortText key = ⟨[], .ok none⟩ := by
  rw [sortText, if_neg (by simp [h])]
  rfl

/-- What is neither a list nor a tuple is its own last value. -/
lemma last_eq_self {v : Value} (hlist : ∀ items, v ≠ .list items)
    (htuple : ∀ items, v ≠ .tuple items) : last v = v := by
  cases v with
  | list items => exact absurd rfl (hlist items)
  | tuple items => exact absurd rfl (htuple items)
  | _ => rfl

/-- A mapping holds the first value that it has under a key. -/
lemma held_eq : held key entries = (valuesFor key entries).head?.getD .null := by
  rw [held, valuesFor, List.head?_map, List.head?_filter]

/-- A mapping comes to what it holds for the key. -/
lemma reads_mapping (hp : p.mapping? = some entries) {o : Option Value}
    (hlast : last ((valuesFor key entries).head?.getD .null) = o.getD .null) :
    Reads key o (p.sortText key) := by
  have hmapping : p.isTruthy = !entries.isEmpty ∧ p.get key = .ok (held key entries) := by
    match p, hp with
    | marked _ _, hp => cases hp; exact ⟨rfl, rfl⟩
    | value (.dict _), hp => cases hp; exact ⟨rfl, rfl⟩
  refine Reads.of_getD ?_
  rw [← hlast, ← held_eq]
  by_cases hempty : entries = []
  · rw [sortText_of_falsy (by simp [hmapping.1, hempty]), hempty]
    exact .null
  · exact reads_get (by simp [hmapping.1, hempty]) hmapping.2

/-- Pairs come to the last value that they hold for the key. -/
lemma reads_pairs (entries : List (Value × Value)) :
    Reads key (valuesFor key entries).getLast? ((pairs entries).sortText key) := by
  refine Reads.of_getD ?_
  by_cases hempty : entries = []
  · subst hempty
    exact .null
  · have htruthy : (pairs entries).isTruthy = true := by simp [isTruthy, hempty]
    exact reads_get htruthy rfl

/-- Whatever holds the values, the last one that is given decides. -/
lemma reads_of_gives {values : List Value} (h : Gives key p values) :
    Reads key values.getLast? (p.sortText key) := by
  cases h with
  | pairs entries => exact reads_pairs entries
  | missing hp hheld => exact reads_mapping hp (by rw [hheld]; rfl)
  | list hp hheld => exact reads_mapping hp (by rw [hheld]; rfl)
  | tuple hp hheld => exact reads_mapping hp (by rw [hheld]; rfl)
  | single hp hheld hlist htuple =>
      exact reads_mapping hp (by rw [hheld]; exact last_eq_self hlist htuple)
  | @absent v hv =>
      have hfalsy : (value v).isTruthy = false := hv
      rw [sortText_of_falsy hfalsy]
      exact .nothing

/-! ### Containers that give the same -/

/-- Under its own key a mapping with one entry has the value of the entry. -/
lemma valuesFor_singleton (v : Value) : valuesFor key [(.text key, v)] = [v] := by
  have hkey : (Value.text key).sameKey (.text key) = true := Value.sameKey_text.mpr rfl
  simp [valuesFor, hkey]

/-- Parameters that come to the same text are alike to a step that sorts by them. -/
lemma step_congr [Orderings] {q : Parameters} (h : p.sortText key = q.sortText key)
    (session : Session) (model : String) (setup : Setup) (given : Option Statement)
    (name : Option String) :
    session.step (.sortByParameter model p key setup given name) =
      session.step (.sortByParameter model q key setup given name) := by
  have hsort : session.models.sortByParameter model p key setup.gate given =
      session.models.sortByParameter model q key setup.gate given := by
    rw [Registry.sortByParameter, Registry.sortByParameter, h]
  have hperform : session.perform (.sortByParameter model p key setup given name) =
      session.perform (.sortByParameter model q key setup given name) := by
    rw [Session.perform, Session.perform, hsort]
  rw [Session.step, Session.step, hperform]

/-- Only the last value that is given for a key matters, whatever holds it. Pairs are alike to a
plain mapping with the list of all their values for the key, and come to the last of them if it is a
text, and else to nothing: without a record if there is none or it is null, and with one record
otherwise. So do all parameters that give values for the key. Two mappings with the same values
under the key are alike, whatever else they hold and whether or not they have something that cannot
be called where pairs have their way to be asked. A mapping with a list or a tuple under the key is
alike to pairs with its items. Parameters that give the same last value come to the same text, with
the same records, and to the same step of a session. -/
theorem sortText_last [Orderings] (key : String) :
    (∀ entries, sortText key (pairs entries) =
      sortText key (value (.dict [(.text key, .list (valuesFor key entries))]))) ∧
    (∀ p values, Gives key p values → Reads key values.getLast? (sortText key p)) ∧
    (∀ p entries q entries', mapping? p = some entries → mapping? q = some entries' →
      valuesFor key entries = valuesFor key entries' → sortText key p = sortText key q) ∧
    (∀ p entries items entries', mapping? p = some entries →
      ((valuesFor key entries).head? = some (.list items) ∨
        (valuesFor key entries).head? = some (.tuple items)) →
      valuesFor key entries' = items → sortText key p = sortText key (pairs entries')) ∧
    ∀ p values q values', Gives key p values → Gives key q values' →
      values.getLast? = values'.getLast? → sortText key p = sortText key q ∧
        ∀ (session : Session) model setup given name,
          session.step (.sortByParameter model p key setup given name) =
            session.step (.sortByParameter model q key setup given name) := by
  have hlast : ∀ p values q values', Gives key p values → Gives key q values' →
      values.getLast? = values'.getLast? → sortText key p = sortText key q := by
    intro p values q values' hp hq hvalues
    have hreads := reads_of_gives hp
    rw [hvalues] at hreads
    exact hreads.unique (reads_of_gives hq)
  refine ⟨fun entries => ?_, fun p values => reads_of_gives, ?_, ?_, ?_⟩
  · refine hlast _ _ _ _ (.pairs entries) (.list rfl ?_) rfl
    rw [valuesFor_singleton]
    rfl
  · intro p entries q entries' hp hq hvalues
    have hreads : Reads key (some (last ((valuesFor key entries).head?.getD .null)))
        (sortText key p) := reads_mapping hp rfl
    rw [hvalues] at hreads
    exact hreads.unique (reads_mapping hq rfl)
  · intro p entries items entries' hp hheld hitems
    have hgives : Gives key p items := hheld.elim (.list hp) (.tuple hp)
    exact hlast _ _ _ _ hgives (.pairs entries') (by rw [hitems])
  · intro p values q values' hp hq hvalues
    have htext := hlast p values q values' hp hq hvalues
    exact ⟨htext, step_congr htext⟩

/-- A list as the last of several values, under a key that is equal to the one asked for: only its
place counts, so that it is ignored although a text is before it and another one in it. A mapping
with a tuple of the same values is no different. -/
theorem sortText_last_nested :
    let values : List Value := [.text "name", .list [.text "id"]]
    let requested : Parameters := .pairs
      [(.text "sort", .text "name"), (.int 1, .null),
        (.textMember "Key" "SORT" "sort", .list [.text "id"])]
    let held : Parameters := .marked [(.text "page", .int 2), (.text "sort", .tuple values)]
      ⟨.text "name", rfl⟩
    valuesFor "sort" [(.text "sort", .text "name"), (.int 1, .null),
        (.textMember "Key" "SORT" "sort", .list [.text "id"])] = values ∧
      sortText "sort" requested =
        ⟨[.debug .binding "Ignoring non-string sort parameter: ['id']"], .ok none⟩ ∧
      sortText "sort" held = sortText "sort" requested := by
  intro values requested held
  let _ : Orderings := ⟨fun _ _ _ => .ok .same⟩
  obtain ⟨-, hreads, -, hitems, -⟩ := sortText_last "sort"
  have hvalues : valuesFor "sort" [(.text "sort", .text "name"), (.int 1, .null),
      (.textMember "Key" "SORT" "sort", .list [.text "id"])] = values := by rfl
  have hrecord : "Ignoring non-string " ++ "sort" ++ " parameter: " ++
      (Value.list [.text "id"]).written = "Ignoring non-string sort parameter: ['id']" := by
    decide +kernel
  refine ⟨hvalues, ?_, ?_⟩
  · rw [← hrecord]
    exact (hreads requested _ (.pairs _)).unique (hvalues ▸ .ignored (by simp) rfl)
  · exact hitems held _ values _ rfl (.inr rfl) hvalues

end QueryOrder.Parameters
