import MailHost.Event
import MailHost.Options

/-!
# Traced computations

A computation with the calls it made and the events it told, both in order.
Neither has a say in the value.
-/

namespace MailHost

structure Traced (α : Type) where
  value : α
  calls : List Call
  events : List Event

namespace Traced

variable {α β : Type}

def pure (value : α) : Traced α := ⟨value, [], []⟩

def bind (first : Traced α) (next : α → Traced β) : Traced β :=
  let second := next first.value
  ⟨second.value, first.calls ++ second.calls, first.events ++ second.events⟩

instance : Monad Traced where
  pure := pure
  bind := bind

instance : LawfulMonad Traced := LawfulMonad.mk' Traced
  (by intro α x; simp [Functor.map, bind, pure])
  (by intro α β x f; simp [Bind.bind, Pure.pure, bind, pure])
  (by intro α β γ x f g; simp [Bind.bind, bind])

def ask (call : Call) (answer : α) : Traced α := ⟨answer, [call], []⟩

def tell (event : Event) : Traced Unit := ⟨(), [], [event]⟩

def tellAll (events : List Event) : Traced Unit := ⟨(), [], events⟩

@[simp]
theorem value_pure (value : α) : (Pure.pure value : Traced α).value = value := rfl

@[simp]
theorem calls_pure (value : α) : (Pure.pure value : Traced α).calls = [] := rfl

@[simp]
theorem events_pure (value : α) : (Pure.pure value : Traced α).events = [] := rfl

@[simp]
theorem value_bind (first : Traced α) (next : α → Traced β) :
    (first >>= next).value = (next first.value).value := rfl

@[simp]
theorem calls_bind (first : Traced α) (next : α → Traced β) :
    (first >>= next).calls = first.calls ++ (next first.value).calls := rfl

@[simp]
theorem events_bind (first : Traced α) (next : α → Traced β) :
    (first >>= next).events = first.events ++ (next first.value).events := rfl

@[simp]
theorem value_map (change : α → β) (first : Traced α) :
    (change <$> first).value = change first.value := rfl

@[simp]
theorem calls_map (change : α → β) (first : Traced α) :
    (change <$> first).calls = first.calls := by
  change first.calls ++ [] = first.calls
  simp

@[simp]
theorem events_map (change : α → β) (first : Traced α) :
    (change <$> first).events = first.events := by
  change first.events ++ [] = first.events
  simp

@[simp]
theorem value_ask (call : Call) (answer : α) : (ask call answer).value = answer := rfl

@[simp]
theorem calls_ask (call : Call) (answer : α) : (ask call answer).calls = [call] := rfl

@[simp]
theorem events_ask (call : Call) (answer : α) : (ask call answer).events = [] := rfl

@[simp]
theorem calls_tell (event : Event) : (tell event).calls = [] := rfl

@[simp]
theorem events_tell (event : Event) : (tell event).events = [event] := rfl

@[simp]
theorem calls_tellAll (events : List Event) : (tellAll events).calls = [] := rfl

@[simp]
theorem events_tellAll (events : List Event) : (tellAll events).events = events := rfl

end Traced

/-!
## Consulting

The questions to the registry, the resolver, the environment and the mail
store, each with its call.
-/

namespace Registry

variable {σ : Type} [Registry σ]

def askList (store : σ) : Traced (Except RegistryError (List String)) :=
  .ask .registryList (Registry.list store)

def askContains (store : σ) (domain : String) : Traced (Except RegistryError Bool) :=
  .ask (.registryContains domain) (Registry.contains store domain)

def askAdd (store : σ) (domain : String) : Traced (Except RegistryError Unit × σ) :=
  .ask (.registryAdd domain) (Registry.add store domain)

@[simp]
theorem value_askList (store : σ) : (askList store).value = Registry.list store := rfl

@[simp]
theorem value_askContains (store : σ) (domain : String) :
    (askContains store domain).value = Registry.contains store domain := rfl

@[simp]
theorem value_askAdd (store : σ) (domain : String) :
    (askAdd store domain).value = Registry.add store domain := rfl

end Registry

namespace MailStore

variable {μ : Type} [MailStore μ]

def askHasInbox (boxes : μ) (user : String) : Traced (Except MailboxError Bool) :=
  .ask (.hasInbox user) (MailStore.hasInbox boxes user)

def askCreateInbox (boxes : μ) (user : String) : Traced (Except MailboxError Unit × μ) :=
  .ask (.createInbox user) (MailStore.createInbox boxes user)

def askAppend (boxes : μ) (user : String) (message : ByteArray) :
    Traced (Except MailboxError Unit × μ) :=
  .ask (.append user) (MailStore.append boxes user message)

end MailStore

namespace Environment

def askVar (environment : Environment) (name : String) : Traced (Option String) :=
  .ask (.variable name) (environment.var? name)

@[simp]
theorem value_askVar (environment : Environment) (name : String) :
    (environment.askVar name).value = environment.var? name := rfl

end Environment

namespace Resolver

def askAddresses (resolver : Resolver) (host : String) :
    Traced (Except LookupError (List Address)) :=
  .ask (.addresses host) (resolver.addresses host)

@[simp]
theorem value_askAddresses (resolver : Resolver) (host : String) :
    (resolver.askAddresses host).value = resolver.addresses host := rfl

def askHostName (resolver : Resolver) (address : Address) : Traced (Except LookupError String) :=
  .ask (.hostName address) (resolver.hostName address)

@[simp]
theorem value_askHostName (resolver : Resolver) (address : Address) :
    (resolver.askHostName address).value = resolver.hostName address := rfl

def askLocalAddress (resolver : Resolver) : Traced (Except LookupError Address) :=
  .ask .localAddress resolver.localAddress

@[simp]
theorem value_askLocalAddress (resolver : Resolver) :
    resolver.askLocalAddress.value = resolver.localAddress := rfl

def askMailExchangers (resolver : Resolver) (host : String) :
    Traced (Except LookupError (List String)) :=
  .ask (.mailExchangers host) (resolver.mailExchangers host)

def askTextRecords (resolver : Resolver) (host : String) :
    Traced (Except LookupError (List String)) :=
  .ask (.textRecords host) (resolver.textRecords host)

/-- The first address of a host; a host without addresses is unknown. -/
def firstAddress (resolver : Resolver) (host : String) : Traced (Except LookupError Address) := do
  match ← resolver.askAddresses host with
  | .error e => return .error e
  | .ok [] => return .error (.unknownHost host)
  | .ok (address :: _) => return .ok address

/-- The name of the machine, which is the name of the host with its address. -/
def localHostName (resolver : Resolver) : Traced (Except LookupError String) := do
  match ← resolver.askLocalAddress with
  | .error e => return .error e
  | .ok address => resolver.askHostName address

end Resolver

end MailHost
