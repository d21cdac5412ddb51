import ErdDeploy.Proofs.Web.Repetitions

/-!
What the path of a lookup says.

A name stands in the path of a lookup between quotes, with each of its own quotes written twice.
A literal is read back to the text that was written, up to the quote that closes it, and nothing
else is read to that text (`Literal.read?_eq_some_iff`). So whatever the name is, the literal of
the path ends at the quote in front of the last parenthesis and says the text that the object is
looked up by, and a path that does so names one kind of objects and one text
(`ObjectKind.addresses_path`, `ObjectKind.Addresses.unique`).

All requests of a query are for its path, however often it is put off (`Attempts.url_of_mem`).
Hence finds for two option sets or relationships of different names never ask for the same path:
see `Endpoint.find_literal_closed`.
-/

namespace ErdDeploy

/-! ## Literals -/

namespace Literal

theorem write_quote (cs : List Char) : write (quote :: cs) = quote :: quote :: write cs := by
  rw [write, if_pos rfl]

theorem write_other {c : Char} (other : c ≠ quote) (cs : List Char) :
    write (c :: cs) = c :: write cs := by
  rw [write, if_neg other]

theorem read?_pair (cs : List Char) :
    read? (quote :: quote :: cs) =
      (read? cs).map fun (text, after) => (quote :: text, after) := by
  rw [read?, if_pos rfl, if_pos rfl]

theorem read?_other {c : Char} (other : c ≠ quote) (cs : List Char) :
    read? (c :: cs) = (read? cs).map fun (text, after) => (c :: text, after) := by
  cases cs with
  | nil => exact if_neg other
  | cons d cs => rw [read?, if_neg other]

/-- A quote that does not come in a pair closes the literal. -/
theorem read?_close {rest : List Char} (single : rest.head? ≠ some quote) :
    read? (quote :: rest) = some ([], rest) := by
  cases rest with
  | nil => rfl
  | cons d rest =>
      have other : d ≠ quote := fun same => single (congrArg some same)
      rw [read?, if_pos rfl, if_neg other]

/-- What is written is read back, whatever follows the closing quote, unless it is a quote. -/
theorem read?_write_append (text : List Char) {rest : List Char}
    (single : rest.head? ≠ some quote) :
    read? (write text ++ quote :: rest) = some (text, rest) := by
  induction text with
  | nil => exact read?_close single
  | cons c cs ih =>
      by_cases same : c = quote
      · subst same
        rw [write_quote, List.cons_append, List.cons_append, read?_pair, ih]
        rfl
      · rw [write_other same, List.cons_append, read?_other same, ih]
        rfl

/-- A literal is read to a text exactly if it is the one that is written for it. -/
theorem read?_eq_some_iff {cs text rest : List Char} :
    read? cs = some (text, rest) ↔
      cs = write text ++ quote :: rest ∧ rest.head? ≠ some quote := by
  refine ⟨fun found => ?_, fun ⟨same, single⟩ => same ▸ read?_write_append text single⟩
  -- The cases of the reader: a pair and any other character leave a shorter literal to read.
  fun_induction read? cs generalizing text with
  | case1 => cases found
  | case2 cs ih =>
      obtain ⟨⟨text, after⟩, read, same⟩ := Option.map_eq_some_iff.mp found
      cases same
      obtain ⟨rfl, single⟩ := ih read
      rw [write_quote]
      exact ⟨rfl, single⟩
  | case3 d cs other =>
      cases found
      exact ⟨rfl, fun same => other (Option.some.inj same)⟩
  | case4 =>
      cases found
      exact ⟨rfl, by simp⟩
  | case5 c cs other ih =>
      obtain ⟨⟨text, after⟩, read, same⟩ := Option.map_eq_some_iff.mp found
      cases same
      obtain ⟨rfl, single⟩ := ih read
      rw [write_other other]
      exact ⟨rfl, single⟩

/-- The key of a path: the text of the literal behind the first `=`, and what follows it. -/
def key? (path : List Char) : Option (List Char × List Char) :=
  match path.dropWhile (· != '=') with
  | _ :: opening :: literal => if opening = quote then read? literal else none
  | _ => none

theorem key?_append {front : List Char} (free : ∀ c ∈ front, (c != '=') = true)
    (literal : List Char) : key? (front ++ '=' :: quote :: literal) = read? literal := by
  have opened : (front ++ '=' :: quote :: literal).dropWhile (· != '=') =
      '=' :: quote :: literal := by
    rw [List.dropWhile_append_of_pos free]
    rfl
  unfold key?
  rw [opened]
  exact if_pos rfl

end Literal

/-! ## Paths -/

namespace ObjectKind

/-- What stands in a path in front of the key. -/
def front (kind : ObjectKind) : List Char :=
  (kind.collection ++ "(" ++ kind.lookupMember).toList

/-- A path that names, of a kind of objects, the one that is looked up by a text. -/
structure Addresses (kind : ObjectKind) (text path : String) : Prop where
  before : path.toList.takeWhile (· != '=') = kind.front
  /-- The literal behind `=` says the text, and only the last parenthesis follows it. -/
  key : Literal.key? path.toList = some (text.toList, [')'])

theorem front_free (kind : ObjectKind) : ∀ c ∈ kind.front, (c != '=') = true := by
  apply List.all_eq_true.mp
  cases kind <;> rfl

theorem front_injective : Function.Injective front := by
  intro kind kind' same
  cases kind <;> cases kind' <;> revert same <;> decide

theorem toList_path (kind : ObjectKind) (name : String) :
    (kind.path name).toList = kind.front ++ '=' :: Literal.quote ::
      (Literal.write (kind.lookupName name).toList ++ [Literal.quote, ')']) := by
  simp [path, front]

/-- Whatever a name is, its path names the object that is looked up by it. -/
theorem addresses_path (kind : ObjectKind) (name : String) :
    kind.Addresses (kind.lookupName name) (kind.path name) := by
  constructor
  · rw [toList_path, List.takeWhile_append_of_pos kind.front_free]
    exact List.append_nil _
  · rw [toList_path, Literal.key?_append kind.front_free]
    exact Literal.read?_eq_some_iff.mpr ⟨rfl, by decide⟩

example : path .optionSet "o'brien" = "GlobalOptionSetDefinitions(Name='o''brien')" := by cbv

theorem Addresses.unique {kind kind' : ObjectKind} {text text' path : String}
    (left : kind.Addresses text path) (right : kind'.Addresses text' path) :
    kind = kind' ∧ text = text' := by
  refine ⟨front_injective (left.before.symm.trans right.before), ?_⟩
  have same := Option.some.inj (left.key.symm.trans right.key)
  exact String.toList_inj.mp (congrArg Prod.fst same)

end ObjectKind

/-! ## Requests -/

/-- The URL that an event asks the metadata interface for, if it asks for one. -/
def Event.url? : Event → Option String
  | .sent (.query url ..) _ => some url
  | _ => none

theorem Event.filterMap_url?_calls (events : List Event) :
    (calls events).filterMap url? = events.filterMap url? := by
  rw [calls, List.filterMap_filter]
  congr 1
  funext event
  cases event with
  | waited => rfl
  | sent request reply => cases request <;> rfl

section

variable {τ : Type} [Reckoning τ] {endpoint : Endpoint} {query : Query} {events : List Event}

theorem Acquisition.urls_eq_nil {source : TokenSource} {result : Except ClientError Value}
    (acquisition : Acquisition τ source events result) : events.filterMap Event.url? = [] := by
  rw [← Event.filterMap_url?_calls, acquisition.calls_eq_nil]
  rfl

variable {result : Except ClientError Response}

theorem Attempt.url_of_mem (attempt : Attempt τ endpoint query events result) :
    ∀ url ∈ events.filterMap Event.url?, url = endpoint.baseUrl ++ query.path := by
  cases attempt with
  | tokenless acquisition => simp [acquisition.urls_eq_nil]
  | unreached failure acquisition =>
      simp [List.filterMap_append, acquisition.urls_eq_nil, Event.url?, Endpoint.request]
  | answered response acquisition =>
      simp [List.filterMap_append, acquisition.urls_eq_nil, Event.url?, Endpoint.request]

/-- However often a query is repeated, all its requests are for its path. -/
theorem Attempts.url_of_mem {left : Nat} (attempts : Attempts τ endpoint query left events result) :
    ∀ url ∈ events.filterMap Event.url?, url = endpoint.baseUrl ++ query.path := by
  induction attempts with
  | last attempt => exact attempt.url_of_mem
  | failed attempt => exact attempt.url_of_mem
  | settled attempt _ => exact attempt.url_of_mem
  | repeated attempt _ _ ih =>
      intro url member
      rw [List.filterMap_append, List.mem_append] at member
      exact member.elim (attempt.url_of_mem url) (ih url)
  | stranded failure attempt _ =>
      intro url member
      rw [List.filterMap_append, List.mem_append] at member
      exact member.elim (attempt.url_of_mem url) nofun

end

namespace Endpoint

section

variable {σ τ : Type} [Reckoning τ]

/-- The URLs that a find asks the interface for, one for each of its requests. -/
def urls (endpoint : Endpoint) (transport : Transport σ τ) (kind : ObjectKind) (name : String)
    (state : Connected σ τ) : List String :=
  (endpoint.find transport.recording kind name (state.beside [])).state.world.2.filterMap
    Event.url?

variable {endpoint : Endpoint} {transport : Transport σ τ} {kind : ObjectKind} {name : String}
  {state : Connected σ τ}

theorem eq_of_mem_urls {url : String} (member : url ∈ endpoint.urls transport kind name state) :
    url = endpoint.baseUrl ++ kind.path name :=
  (endpoint.send_recording transport (findQuery kind name) state).1.url_of_mem url member

theorem addresses_of_mem_urls {path : String}
    (asked : endpoint.baseUrl ++ path ∈ endpoint.urls transport kind name state) :
    kind.Addresses (kind.lookupName name) path := by
  have same : path = kind.path name := (String.append_right_inj _).mp (eq_of_mem_urls asked)
  exact same ▸ kind.addresses_path name

/-- A find that comes to an identifier, or to none, has asked for it. -/
theorem urls_ne_nil {id : RemoteId}
    (found : (endpoint.find transport kind name state).result = .ok id) :
    endpoint.urls transport kind name state ≠ [] := by
  rcases (endpoint.send_recording transport (findQuery kind name) state).1.ending with
    ⟨earlier, last, trail, ending⟩
  have urls : endpoint.urls transport kind name state =
      (endpoint.trail transport (findQuery kind name) state).filterMap Event.url? := rfl
  rw [find, ask] at found
  rcases sent : (endpoint.send transport (findQuery kind name) state).result with error | response
  · rw [sent] at found
    cases found
  · rw [sent] at ending
    rw [urls, trail]
    cases ending with
    | answered token response => simp [Event.url?, request]

end

/-- **Names in lookups.** Whatever the name is, and whatever comes of the requests of a find: each
of them is for a path whose literal ends at the quote in front of the last parenthesis and says the
name, that of a table in lower case. So finds for option sets or relationships do not ask for the
path of any other name, nor of another kind. The URL is the one that is handed to the transport;
how the transport encodes it on its way is not told here. -/
theorem find_literal_closed {σ τ : Type} [Reckoning τ] (endpoint : Endpoint)
    (transport : Transport σ τ) (kind : ObjectKind) (name : String) (state : Connected σ τ) :
    (∀ id, (endpoint.find transport kind name state).result = .ok id →
      endpoint.urls transport kind name state ≠ []) ∧
    (∀ url ∈ endpoint.urls transport kind name state, ∃ path, url = endpoint.baseUrl ++ path ∧
      kind.Addresses (if kind = .table then Text.lowerString name else name) path) ∧
    ∀ {σ' τ' : Type} [Reckoning τ'] (endpoint' : Endpoint) (transport' : Transport σ' τ')
      (kind' : ObjectKind) (name' : String) (state' : Connected σ' τ') (path : String),
      kind ≠ .table → (kind', name') ≠ (kind, name) →
      endpoint'.baseUrl ++ path ∈ endpoint'.urls transport' kind' name' state' →
      endpoint.baseUrl ++ path ∉ endpoint.urls transport kind name state := by
  refine ⟨fun id => urls_ne_nil, fun url member => ?_, ?_⟩
  · have text : kind.lookupName name =
        if kind = .table then Text.lowerString name else name := by
      cases kind <;> rfl
    exact ⟨kind.path name, eq_of_mem_urls member, text ▸ kind.addresses_path name⟩
  · intro σ' τ' _ endpoint' transport' kind' name' state' path cased other asked' asked
    obtain ⟨rfl, same⟩ := (addresses_of_mem_urls asked').unique (addresses_of_mem_urls asked)
    -- Only the names of tables are changed before they are written, so equal texts are equal names.
    have plain : ∀ name, kind'.lookupName name = name := by
      intro name
      cases kind' with
      | table => exact absurd rfl cased
      | optionSet => rfl
      | relationship => rfl
    rw [plain, plain] at same
    exact other (congrArg _ same)

/-- An endpoint with a token at hand. -/
def authorized : Endpoint where
  environmentUrl := "https://org.example.com"
  tokens := .given "t"

/-- A connection on which a find is answered that there is no such object. -/
def fruitless : Connected (Script Binary64) Binary64 :=
  ⟨.ofReplies [.ok ⟨notFoundStatus, none, [], ""⟩] (Binary64.zero false), .empty⟩

/-- Two names that end in quotes, right in front of the one that closes the literal, have a path
each. -/
theorem find_literal_closed_quotes :
    (authorized.find Script.transport .relationship "a'" fruitless).result = .ok .absent ∧
    authorized.urls Script.transport .relationship "a'" fruitless ≠ [] ∧
    authorized.baseUrl ++ "RelationshipDefinitions(SchemaName='a''')" ∈
      authorized.urls Script.transport .relationship "a'" fruitless ∧
    (∃ path, authorized.baseUrl ++ "RelationshipDefinitions(SchemaName='a''')" =
      authorized.baseUrl ++ path ∧ ObjectKind.relationship.Addresses "a'" path) ∧
    authorized.baseUrl ++ "RelationshipDefinitions(SchemaName='a''')" ∉
      authorized.urls Script.transport .relationship "a''" fruitless := by
  have path : ObjectKind.relationship.path "a'" = "RelationshipDefinitions(SchemaName='a''')" := by
    cbv
  have found : (authorized.find Script.transport .relationship "a'" fruitless).result =
      .ok .absent := rfl
  have asked : authorized.baseUrl ++ "RelationshipDefinitions(SchemaName='a''')" ∈
      authorized.urls Script.transport .relationship "a'" fruitless := by
    rw [← path]
    exact List.mem_singleton.mpr rfl
  obtain ⟨present, reads, -⟩ :=
    find_literal_closed authorized Script.transport .relationship "a'" fruitless
  obtain ⟨-, -, apart⟩ :=
    find_literal_closed authorized Script.transport .relationship "a''" fruitless
  exact ⟨found, present _ found, asked, reads _ asked,
    apart authorized Script.transport .relationship "a'" fruitless _ (by decide) (by decide) asked⟩

end Endpoint

end ErdDeploy
