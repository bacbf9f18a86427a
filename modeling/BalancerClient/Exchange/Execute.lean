import BalancerClient.Exchange.Network

/-!
# Executing a request

Any object can be sent that brings constraints and can be written as JSON.  Executing it takes
the steps of a call in their order: the constraints are checked, the object is brought into
wire form, the header fields are made, the provider of credentials is asked, and the request
goes over the network.  A provider may keep a state of its own, so every question put to it
counts.

## Main definitions

* `RequestObject` - an object to send.
* `Provider` - a provider of credentials with a state; `Provider.ofCredentials` is one
  without.
* `Scene` - the provider's state, the questions so far, and the network.
* `Connection.execute` - what the caller gets, and the scene afterwards.
-/

namespace BalancerClient

/-- An object to send: its constraints, and its JSON unless it cannot be written. -/
structure RequestObject where
  checks : List Check
  written : Except String Json

/-- The wire form of an object. -/
def RequestObject.wireForm (d : Descriptor) (r : RequestObject) : Except Error WireRequest :=
  match r.written with
  | .error text => .error (.serialization (.text text))
  | .ok v => WireRequest.assemble d v

/-- A provider of credentials whose answers may depend on a state. -/
structure Provider (σ : Type) where
  headers : SigningRequest → σ → Except CredentialsError Headers × σ

/-- A provider without a state. -/
def Provider.ofCredentials (k : Credentials) : Provider Unit := ⟨fun r s => (k.headers r, s)⟩

/-- What a request is executed among. -/
structure Scene (σ : Type) where
  /-- The state of the provider of credentials. -/
  state : σ
  /-- What the provider has been asked about. -/
  asked : List SigningRequest := []
  network : Network

section Scenes

variable {α σ : Type}

/-- Asks the provider about a request. -/
def Provider.ask (provider : Provider σ) (r : SigningRequest) (x : Scene σ) :
    Except CredentialsError Headers × Scene σ :=
  let (answer, state) := provider.headers r x.state
  (answer, { x with state, asked := x.asked ++ [r] })

namespace Connection

/-- Takes a request that has its header fields to the server, if the transport takes its
URL. -/
def exchange (c : Connection) (w : WireRequest) (headers : Headers) (reader : BodyReader α)
    (x : Scene σ) : Except Error (Response α) × Scene σ :=
  match c.httpRequest? w headers with
  | none => (.error .untakenUrl, x)
  | some request =>
    let (delivery, network) := x.network.deliver request
    (delivery.read reader, { x with network })

/-- Sends a request in wire form. -/
def send (c : Connection) (provider : Provider σ) (stamp : Stamp) (w : WireRequest)
    (o : RequestOptions) (reader : BodyReader α) (x : Scene σ) :
    Except Error (Response α) × Scene σ :=
  match c.libraryHeaders stamp w.descriptor o with
  | .error error => (.error error, x)
  | .ok headers =>
    match provider.ask (signing w headers) x with
    | (.error error, x) => (.error (.authentication error), x)
    | (.ok fields, x) => c.exchange w (headers.override fields) reader x

/-- Executes a request. -/
def execute (c : Connection) (provider : Provider σ) (stamp : Stamp) (d : Descriptor)
    (r : RequestObject) (o : RequestOptions) (reader : BodyReader α) (x : Scene σ) :
    Except Error (Response α) × Scene σ :=
  match Check.validate r.checks with
  | .error error => (.error (.validation (.violations error)), x)
  | .ok () =>
    match r.wireForm d with
    | .error error => (.error error, x)
    | .ok w => c.send provider stamp w o reader x

end Connection

end Scenes

end BalancerClient
