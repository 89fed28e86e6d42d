import MusicLibrary.Catalogue.Item
import MusicLibrary.Catalogue.ItemQuery
import MusicLibrary.Failure

/-!
# Dialogues with a server

What is shown of a library depends on the server's answers, and which question comes next depends on the
answers so far. A dialogue is such a strategy as a value: it is finished, or it asks one question and
goes on as the answer, or the failure to get one, decides. A server is anything that answers questions,
perhaps changing its state; a dialogue that is run with it leaves a result and the list of the
questions asked.
-/

namespace MusicLibrary.Browsing

open Catalogue

/-- A question for a media server. -/
inductive Request where
  /-- The item of the given identifier. -/
  | item (id : String)
  /-- The libraries that the user can see. -/
  | folders
  /-- The items that a query describes. -/
  | items (query : ItemQuery)
  deriving DecidableEq, Repr

/-- What the server answers to a question: an item, or a listing. -/
abbrev Request.Answer : Request → Type
  | .item _ => Item
  | .folders => Listing
  | .items _ => Listing

/-- A strategy for questions that ends in a result. -/
inductive Dialogue (α : Type) where
  /-- The dialogue is over. -/
  | done (result : α)
  /-- A question is asked, and the answer decides what comes next. -/
  | ask (request : Request) (next : Except Failure request.Answer → Dialogue α)

namespace Dialogue

variable {α β : Type}

/-- The first dialogue, and then the one that its result leads to. -/
def bind : Dialogue α → (α → Dialogue β) → Dialogue β
  | done a, f => f a
  | ask r next, f => ask r fun answer => (next answer).bind f

/-- The dialogue with another result. -/
def map (f : α → β) (d : Dialogue α) : Dialogue β := d.bind fun a => done (f a)

/-- The dialogue that ends in a failure. -/
def fail (cause : Failure) : Dialogue (Except Failure α) := done (.error cause)

/-- A question without whose answer there is no result. -/
def demand (request : Request) (next : request.Answer → Dialogue (Except Failure α)) :
    Dialogue (Except Failure α) :=
  ask request fun answer =>
    match answer with
    | .error cause => fail cause
    | .ok a => next a

end Dialogue

/-- Something that answers questions out of a state. -/
structure Server (σ : Type) where
  /-- The answer to a question, and the state after it. -/
  answer : (request : Request) → σ → Except Failure request.Answer × σ

/-- What a dialogue leaves behind. -/
structure Outcome (σ α : Type) where
  /-- The result of the dialogue. -/
  result : α
  /-- The questions that were asked, in their order. -/
  requests : List Request
  /-- The state of the server after the last one. -/
  state : σ

/-- The dialogue with a server that is in the given state. -/
def Dialogue.run {σ α : Type} (server : Server σ) : Dialogue α → σ → Outcome σ α
  | done a, s => ⟨a, [], s⟩
  | ask r next, s =>
    let (answer, t) := server.answer r s
    let rest := (next answer).run server t
    ⟨rest.result, r :: rest.requests, rest.state⟩

end MusicLibrary.Browsing
