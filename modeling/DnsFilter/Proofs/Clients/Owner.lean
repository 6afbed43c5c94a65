import Std.Data.HashMap.Lemmas
import DnsFilter.Clients.Finder
/-!
# The owner of an identifier

The table of a client finder agrees with a scan of the clients: an identifier belongs to the first
client that has it, and of several identifiers the first one counts that belongs to anyone.
-/
namespace DnsFilter

namespace Text

theorem lowered_inj {s t : String} : lowered s = lowered t ↔ sameIgnoringCase s t = true := by
  simp [lowered, sameIgnoringCase, String.ofList_inj]

end Text

def Client.owner? (clients : List Client) (id : String) : Option Client :=
  clients.find? (·.hasAny [id])

/-- The client that a query with these identifiers comes from: the owner of the first of them that
is not empty and has one. -/
def Client.resolve? (clients : List Client) (ids : List String) : Option Client :=
  (ids.filter (· ≠ "")).findSome? (owner? clients)

theorem Client.hasAny_singleton (c : Client) (id : String) :
    c.hasAny [id] = (c.ids.map Text.lowered).contains (Text.lowered id) := by
  rw [Bool.eq_iff_iff]
  simp [hasAny, ← Text.lowered_inj]

namespace ClientFinder

variable (owners : Std.HashMap String Client) (key : String)

theorem getElem?_claim (c : Client) (id : String) :
    (claim c owners id)[key]? =
      owners[key]?.or (if Text.lowered id = key then some c else none) := by
  rw [claim, Std.HashMap.getElem?_insertIfNew]
  by_cases hkey : Text.lowered id = key
  · subst hkey
    cases hold : owners[Text.lowered id]? with
    | none =>
      have hfree : Text.lowered id ∉ owners := by simpa using hold
      simp [hfree]
    | some owner =>
      have htaken : Text.lowered id ∈ owners :=
        Std.HashMap.mem_iff_isSome_getElem?.mpr (by simp [hold])
      simp [htaken]
  · simp [hkey]

/-- A client becomes the owner of those of its identifiers that have none yet. -/
theorem getElem?_claims (c : Client) (ids : List String) :
    (ids.foldl (claim c) owners)[key]? =
      owners[key]?.or (if (ids.map Text.lowered).contains key then some c else none) := by
  induction ids generalizing owners with
  | nil => simp
  | cons id ids ih =>
    rw [List.foldl_cons, ih, getElem?_claim]
    cases owners[key]? with
    | some owner => simp
    | none =>
      by_cases hkey : Text.lowered id = key
      · simp [hkey]
      · have hne : ¬key = Text.lowered id := Ne.symm hkey
        simp [hkey, hne]

theorem getElem?_owners (clients : List Client) :
    (clients.foldl (fun owners c => c.ids.foldl (claim c) owners) owners)[key]? =
      owners[key]?.or (clients.find? fun c => (c.ids.map Text.lowered).contains key) := by
  induction clients generalizing owners with
  | nil => simp
  | cons c clients ih =>
    rw [List.foldl_cons, ih, getElem?_claims, Option.or_assoc, List.find?_cons]
    cases (c.ids.map Text.lowered).contains key <;> simp

theorem find?_ofClients (clients : List Client) (ids : List String) :
    (ofClients clients).find? ids = Client.resolve? clients ids := by
  have howner : (fun id => (ofClients clients).owners[Text.lowered id]?) =
      Client.owner? clients := by
    funext id
    rw [ofClients, getElem?_owners, Std.HashMap.getElem?_empty, Option.none_or, Client.owner?]
    simp only [Client.hasAny_singleton]
  rw [find?, Client.resolve?, howner]

end ClientFinder
/-- An element of a list satisfies something, and none before it does. -/
def FirstOf {α : Type} (p : α → Prop) (l : List α) (a : α) : Prop :=
  ∃ front back, l = front ++ a :: back ∧ p a ∧ ∀ b ∈ front, ¬p b

theorem firstOf_nil {α : Type} {p : α → Prop} {a : α} : ¬FirstOf p [] a := by
  rintro ⟨front, back, hl, -, -⟩
  simp at hl

theorem firstOf_cons {α : Type} {p : α → Prop} {a b : α} {l : List α} :
    FirstOf p (a :: l) b ↔ p a ∧ a = b ∨ ¬p a ∧ FirstOf p l b := by
  constructor
  · rintro ⟨front, back, hl, hb, hfront⟩
    cases front with
    | nil =>
      obtain ⟨rfl, rfl⟩ := List.cons.inj hl
      exact .inl ⟨hb, rfl⟩
    | cons c front =>
      obtain ⟨rfl, rfl⟩ := List.cons.inj hl
      obtain ⟨hc, hfront⟩ := List.forall_mem_cons.mp hfront
      exact .inr ⟨hc, front, back, rfl, hb, hfront⟩
  · rintro (⟨ha, rfl⟩ | ⟨ha, front, back, rfl, hb, hfront⟩)
    · exact ⟨[], l, rfl, ha, by simp⟩
    · exact ⟨a :: front, back, rfl, hb, List.forall_mem_cons.mpr ⟨ha, hfront⟩⟩

namespace Client

/-- The client has an identifier, in any case of its letters. -/
def IsKnownAs (c : Client) (id : String) : Prop :=
  ∃ own ∈ c.ids, Text.sameIgnoringCase own id = true

/-- An identifier that is not empty and that some client has. -/
def IsClaimed (clients : List Client) (id : String) : Prop :=
  id ≠ "" ∧ ∃ c ∈ clients, c.IsKnownAs id

theorem hasAny_iff {c : Client} {ids : List String} :
    c.hasAny ids = true ↔ ∃ id ∈ ids, c.IsKnownAs id := by
  simp only [hasAny, List.any_eq_true, IsKnownAs]

theorem owner?_eq_some_iff {clients : List Client} {id : String} {c : Client} :
    owner? clients id = some c ↔ FirstOf (·.IsKnownAs id) clients c := by
  have hsingle (c : Client) : c.hasAny [id] = true ↔ c.IsKnownAs id := by simp [hasAny_iff]
  rw [owner?, List.find?_eq_some_iff_append]
  constructor
  · rintro ⟨hc, front, back, rfl, hfront⟩
    refine ⟨front, back, rfl, (hsingle c).mp hc, fun b hb hk => ?_⟩
    simpa [(hsingle b).mpr hk] using hfront b hb
  · rintro ⟨front, back, rfl, hc, hfront⟩
    refine ⟨(hsingle c).mpr hc, front, back, rfl, fun b hb => ?_⟩
    have hnot : b.hasAny [id] ≠ true := fun h => hfront b hb ((hsingle b).mp h)
    simpa using hnot

theorem owner?_eq_none_iff {clients : List Client} {id : String} :
    owner? clients id = none ↔ ∀ c ∈ clients, ¬c.IsKnownAs id := by
  simp [owner?, hasAny_iff]

theorem resolve?_cons (clients : List Client) (id : String) (ids : List String) :
    resolve? clients (id :: ids) =
      if id = "" then resolve? clients ids else (owner? clients id).or (resolve? clients ids) := by
  by_cases hid : id = ""
  · simp [resolve?, hid]
  · rw [if_neg hid, resolve?, List.filter_cons_of_pos (by simpa using hid), List.findSome?_cons]
    cases owner? clients id <;> rfl

theorem resolve?_eq_some_iff {clients : List Client} {ids : List String} {c : Client} :
    resolve? clients ids = some c ↔
      ∃ id, FirstOf (IsClaimed clients) ids id ∧ FirstOf (·.IsKnownAs id) clients c := by
  induction ids with
  | nil => simp [resolve?, firstOf_nil]
  | cons id ids ih =>
    rw [resolve?_cons]
    by_cases hid : id = ""
    · have hfree : ¬IsClaimed clients id := fun h => h.1 hid
      simp only [if_pos hid, ih, firstOf_cons, hfree, false_and, not_false_eq_true, true_and,
        false_or]
    · rw [if_neg hid]
      cases howner : owner? clients id with
      | none =>
        have hfree : ¬IsClaimed clients id := by
          rintro ⟨-, other, hother, hk⟩
          exact owner?_eq_none_iff.mp howner other hother hk
        simp only [Option.none_or, ih, firstOf_cons, hfree, false_and, not_false_eq_true,
          true_and, false_or]
      | some owner =>
        have hfirst := owner?_eq_some_iff.mp howner
        have hclaimed : IsClaimed clients id := by
          obtain ⟨front, back, rfl, hk, -⟩ := hfirst
          exact ⟨hid, owner, by simp, hk⟩
        simp only [Option.some_or, firstOf_cons, hclaimed, true_and, not_true_eq_false,
          false_and, or_false]
        constructor
        · intro h
          obtain rfl := Option.some.inj h
          exact ⟨id, rfl, hfirst⟩
        · rintro ⟨_, rfl, hc⟩
          rw [← howner]
          exact owner?_eq_some_iff.mpr hc

theorem resolve?_eq_none_iff {clients : List Client} {ids : List String} :
    resolve? clients ids = none ↔ ∀ id ∈ ids, ¬IsClaimed clients id := by
  simp only [resolve?, List.findSome?_eq_none_iff, List.mem_filter, decide_eq_true_eq,
    owner?_eq_none_iff, IsClaimed, and_imp, not_and, not_exists]

end Client

namespace ClientFinder

/-- A look-up gives the first client known under the first identifier that is not empty and that any
client has, and nothing where no client has any of them. -/
theorem find?_first_owner (clients : List Client) (ids : List String) :
    (∀ c, (ofClients clients).find? ids = some c ↔
      ∃ id, FirstOf (Client.IsClaimed clients) ids id ∧ FirstOf (·.IsKnownAs id) clients c) ∧
    ((ofClients clients).find? ids = none ↔
      ∀ c ∈ clients, ∀ id ∈ ids, id ≠ "" → ¬c.IsKnownAs id) ∧
    (∀ c, (ofClients clients).find? ids = some c → c ∈ clients ∧ c.hasAny ids = true) ∧
    ((ofClients clients).find? ids = none →
      ∀ c ∈ clients, c.hasAny (ids.filter (· ≠ "")) = false) := by
  have hsome (c : Client) : Client.resolve? clients ids = some c ↔
      ∃ id, FirstOf (Client.IsClaimed clients) ids id ∧ FirstOf (·.IsKnownAs id) clients c :=
    Client.resolve?_eq_some_iff
  have hnone : Client.resolve? clients ids = none ↔
      ∀ c ∈ clients, ∀ id ∈ ids, id ≠ "" → ¬c.IsKnownAs id := by
    rw [Client.resolve?_eq_none_iff]
    constructor
    · intro h c hc id hid hne hk
      exact h id hid ⟨hne, c, hc, hk⟩
    · rintro h id hid ⟨hne, c, hc, hk⟩
      exact h c hc id hid hne hk
  rw [find?_ofClients]
  refine ⟨hsome, hnone, ?_, ?_⟩
  · intro c hc
    obtain ⟨id, ⟨_, _, rfl, -⟩, _, _, rfl, hk, -⟩ := (hsome c).mp hc
    exact ⟨by simp, Client.hasAny_iff.mpr ⟨id, by simp, hk⟩⟩
  · intro h c hc
    rw [Bool.eq_false_iff, Ne, Client.hasAny_iff]
    rintro ⟨id, hid, hk⟩
    obtain ⟨hid, hne⟩ := List.mem_filter.mp hid
    exact hnone.mp h c hc id hid (by simpa using hne) hk

end ClientFinder
end DnsFilter
