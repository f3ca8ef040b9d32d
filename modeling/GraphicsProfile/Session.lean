import GraphicsProfile.Profile
import GraphicsProfile.Registry.Loading

/-!
Sessions: sequences of steps over slots that hold registries and profiles.

A step puts a registry or a profile into a slot, sets a binding of a registry, or asks a question.
A step that fails changes no slot, and a question never does.
-/

namespace GraphicsProfile.Session

/-- What a slot holds. -/
inductive Content where
  | registry (registry : Registry)
  | profile (profile : Profile)
  deriving DecidableEq

/-- The slots of a session by their names. -/
abbrev Slots := Table Content

inductive Origin where
  | blank
  | named (name : String)
  | preset
  | document (text : String)
  deriving DecidableEq

inductive Question where
  | name
  | codeOrZero (name : String)
  | code? (name : String)
  | codeOrError (name : String)
  | contains (name : String)
  | names
  | size
  | componentCountOrZero (typeName : String)
  | componentCount? (typeName : String)
  | componentCountOrError (typeName : String)
  | elementSize? (typeName : String) (type : ComponentType)
  | componentTypeCode (type : ComponentType)
  | document
  | summary
  deriving DecidableEq

inductive Step where
  | create (target : String) (origin : Origin)
  | freeze (source target : String)
  | toRegistry (source target : String)
  | copy (source target : String)
  | reload (source target : String)
  | set (slot name : String) (code : UInt32)
  | ask (slot : String) (question : Question)
  | compare (slot other : String)
  deriving DecidableEq

/-- All there is to know of a registry. -/
structure Summary where
  name : String
  size : Nat
  isEmpty : Bool
  bindings : List (String × UInt32)
  document : String
  deriving DecidableEq

inductive Reply where
  | stored (size : Nat) (frozen : Bool)
  | bound (size : Nat)
  | text (text : String)
  | code (code : UInt32)
  | optionalCode (code : Option UInt32)
  | truth (truth : Bool)
  | names (names : List String)
  | size (size : Nat) (isEmpty : Bool)
  | count (count : Nat)
  | optionalCount (count : Option Nat)
  | summary (summary : Summary)
  deriving DecidableEq

inductive Failure where
  | refused (error : ProfileError)
  | noSuchSlot (slot : String)
  | notARegistry (slot : String)
  | notAProfile (slot : String)
  deriving DecidableEq

abbrev Answer := Logged (Except Failure Reply)

structure Outcome where
  slots : Slots
  answer : Answer

def Summary.of (registry : Registry) : Summary :=
  ⟨registry.name, registry.size, registry.isEmpty, registry.bindings.entries,
    registry.toDocument⟩

/-- The answer that a strict question amounts to. -/
def strictReply {α : Type} (reply : α → Reply) (logged : Logged (Except ProfileError α)) : Answer :=
  logged.map fun
    | .ok value => .ok (reply value)
    | .error error => .error (.refused error)

/-- The answer that any other question amounts to. -/
def plainReply {α : Type} (reply : α → Reply) (logged : Logged α) : Answer :=
  logged.map (.ok ∘ reply)

/-- The answer to a question that logs nothing. -/
def silentReply (reply : Reply) : Answer :=
  .silent (.ok reply)

def answerRegistry (registry : Registry) : Question → Answer
  | .name => silentReply (.text registry.name)
  | .codeOrZero name => plainReply .code (registry.codeOrZero name)
  | .code? name => plainReply .optionalCode (registry.code? name)
  | .codeOrError name => strictReply .code (registry.codeOrError name)
  | .contains name => silentReply (.truth (registry.contains name))
  | .names => silentReply (.names registry.names)
  | .size => silentReply (.size registry.size registry.isEmpty)
  | .componentCountOrZero typeName => plainReply .count (registry.componentCountOrZero typeName)
  | .componentCount? typeName => plainReply .optionalCount (registry.componentCount? typeName)
  | .componentCountOrError typeName => strictReply .count (registry.componentCountOrError typeName)
  | .elementSize? typeName type => plainReply .optionalCount (registry.elementSize? typeName type)
  | .componentTypeCode type => plainReply .code (registry.componentTypeCode type)
  | .document => silentReply (.text registry.toDocument)
  | .summary => silentReply (.summary (.of registry))

def answerProfile (profile : Profile) : Question → Answer
  | .name => silentReply (.text profile.name)
  | .codeOrZero name => plainReply .code (profile.codeOrZero name)
  | .code? name => plainReply .optionalCode (profile.code? name)
  | .codeOrError name => strictReply .code (profile.codeOrError name)
  | .contains name => silentReply (.truth (profile.contains name))
  | .names => silentReply (.names profile.names)
  | .size => silentReply (.size profile.size profile.isEmpty)
  | .componentCountOrZero typeName => plainReply .count (profile.componentCountOrZero typeName)
  | .componentCount? typeName => plainReply .optionalCount (profile.componentCount? typeName)
  | .componentCountOrError typeName => strictReply .count (profile.componentCountOrError typeName)
  | .elementSize? typeName type => plainReply .optionalCount (profile.elementSize? typeName type)
  | .componentTypeCode type => plainReply .code (profile.componentTypeCode type)
  | .document => silentReply (.text profile.toDocument)
  | .summary => silentReply (.summary (.of profile.toRegistry))

namespace Content

/-- The name and the bindings of what a slot holds, frozen or not. -/
def toRegistry : Content → Registry
  | registry held => held
  | profile held => held.toRegistry

def isFrozen : Content → Bool
  | registry _ => false
  | profile _ => true

def answer : Content → Question → Answer
  | registry held => answerRegistry held
  | profile held => answerProfile held

end Content

def Origin.load : Origin → Logged (Except ProfileError Registry)
  | blank => .silent (.ok .blank)
  | named name => .silent (.ok (.named name))
  | preset => Registry.loadPreset.map .ok
  | document text => Registry.load text

def contentOf (slots : Slots) (slot : String) : Except Failure Content :=
  match slots.find? slot with
  | some content => .ok content
  | none => .error (.noSuchSlot slot)

def registryOf (slots : Slots) (slot : String) : Except Failure Registry := do
  match ← contentOf slots slot with
  | .registry registry => return registry
  | .profile _ => .error (.notARegistry slot)

def profileOf (slots : Slots) (slot : String) : Except Failure Profile := do
  match ← contentOf slots slot with
  | .profile profile => return profile
  | .registry _ => .error (.notAProfile slot)

def Outcome.failed (slots : Slots) (failure : Failure) (log : List Event) : Outcome :=
  ⟨slots, ⟨.error failure, log⟩⟩

/-- A step that puts something into a slot, in place of what was there. -/
def Outcome.stored (slots : Slots) (target : String) (content : Content) (log : List Event) :
    Outcome :=
  ⟨slots.insert target content,
    ⟨.ok (.stored content.toRegistry.size content.isFrozen), log⟩⟩

/-- A step that puts a registry into a slot, unless the registry could not be had. -/
def Outcome.loaded (slots : Slots) (target : String)
    (loaded : Logged (Except ProfileError Registry)) : Outcome :=
  match loaded.value with
  | .ok registry => .stored slots target (.registry registry) loaded.log
  | .error error => .failed slots (.refused error) loaded.log

def Outcome.needing {α : Type} (slots : Slots) (need : Except Failure α) (use : α → Outcome) :
    Outcome :=
  match need with
  | .ok value => use value
  | .error failure => .failed slots failure []

def perform (slots : Slots) : Step → Outcome
  | .create target origin => .loaded slots target origin.load
  | .freeze source target =>
    .needing slots (registryOf slots source) fun registry =>
      .stored (slots.erase source) target (.profile registry.freeze.value) registry.freeze.log
  | .toRegistry source target =>
    .needing slots (profileOf slots source) fun profile =>
      .stored slots target (.registry profile.toRegistry) []
  | .copy source target =>
    .needing slots (contentOf slots source) fun content => .stored slots target content []
  | .reload source target =>
    .needing slots (contentOf slots source) fun content =>
      .loaded slots target (Registry.load content.toRegistry.toDocument)
  | .set slot name code =>
    .needing slots (registryOf slots slot) fun registry =>
      let changed := registry.set name code
      ⟨slots.insert slot (.registry changed.value),
        ⟨.ok (.bound changed.value.size), changed.log⟩⟩
  | .ask slot question =>
    .needing slots (contentOf slots slot) fun content => ⟨slots, content.answer question⟩
  | .compare slot other =>
    .needing slots (contentOf slots slot) fun left =>
      .needing slots (contentOf slots other) fun right =>
        ⟨slots, silentReply (.truth (left.toRegistry == right.toRegistry))⟩

/-- The slots behind all the steps, and the answer to each. -/
def run (slots : Slots) : List Step → Slots × List Answer
  | [] => (slots, [])
  | step :: later =>
    let outcome := perform slots step
    let behind := run outcome.slots later
    (behind.1, outcome.answer :: behind.2)

end GraphicsProfile.Session
