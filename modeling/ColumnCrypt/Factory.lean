import ColumnCrypt.Dictionary
import ColumnCrypt.Fault
import ColumnCrypt.Text

/-!
Factories of algorithm instances, and the registry that sorts instances by capability.

A factory turns an algorithm type and its properties into an instance or a fault; an object made
for a request takes the origin that the requester names. A factory of fixed instances hands out
one shared instance per exact type. A registry of creators keeps the first creator of each type,
letters compared case-blind, and checks what a creator makes. The capability registry files each
handle of an encryptor's instance under its name in the map of the role it claims.
-/

namespace ColumnCrypt

abbrev Properties := Dictionary String

/-- A source of algorithm instances. `resolve fresh type properties` answers a request; an object
made for it takes the origin `fresh`. -/
structure Factory where
  resolve : Origin → String → Properties → Except Fault Instance

/-- What running a creator gives. -/
inductive Creation where
  | built (made : Instance)
  | refused (fault : Fault)
  | threw (what : String)

/-- The maker of the instances of one registered type. -/
structure Creator where
  create : Origin → Properties → Creation

/-! ### Factories of fixed instances -/

/-- Instances by their exact type. -/
structure FixedFactory where
  instances : Dictionary Instance

namespace FixedFactory

def empty : FixedFactory := ⟨Dictionary.empty⟩

def add (factory : FixedFactory) (type : String) (made : Instance) : FixedFactory :=
  ⟨factory.instances.insert type made⟩

def resolve (factory : FixedFactory) (type : String) : Except Fault Instance :=
  match factory.instances.find? type with
  | some made => .ok made
  | none => .error (.unknownType type)

def toFactory (factory : FixedFactory) : Factory :=
  ⟨fun _ type _ => factory.resolve type⟩

end FixedFactory

/-! ### Registries of creators -/

/-- Creators by the upper-cased type, in the order of registration. -/
structure AlgorithmRegistry where
  creators : List (String × Creator)

namespace AlgorithmRegistry

def empty : AlgorithmRegistry := ⟨[]⟩

def find? (registry : AlgorithmRegistry) (type : String) : Option Creator :=
  (registry.creators.find? (·.1 = Text.upperAscii type)).map (·.2)

def contains (registry : AlgorithmRegistry) (type : String) : Bool :=
  registry.creators.any (·.1 = Text.upperAscii type)

def size (registry : AlgorithmRegistry) : Nat :=
  registry.creators.length

/-- Registers a creator for a type; `none` stands for an empty creator. Answers whether the
registration was taken. -/
def register (registry : AlgorithmRegistry) (type : String) (creator : Option Creator) :
    Bool × AlgorithmRegistry :=
  match creator with
  | none => (false, registry)
  | some creator =>
    if type = "" then (false, registry)
    else if registry.contains type then (false, registry)
    else (true, ⟨registry.creators ++ [(Text.upperAscii type, creator)]⟩)

/-- Resolves a type: runs its creator once and checks what it made. -/
def resolve (registry : AlgorithmRegistry) (fresh : Origin) (type : String)
    (properties : Properties) : Except Fault Instance :=
  match registry.find? type with
  | none => .error (.notRegistered type)
  | some creator =>
    match creator.create fresh properties with
    | .threw what => .error (.initFailed type what)
    | .refused fault => .error fault
    | .built made =>
      if made.capabilities = Capability.none then .error (.noCapability type)
      else if made.type = "" then .ok { made with type }
      else .ok made

def toFactory (registry : AlgorithmRegistry) : Factory :=
  ⟨registry.resolve⟩

end AlgorithmRegistry

/-! ### Encryptors by capability -/

/-- Encryptors by name, one map per role, with the type of each name's latest instance. -/
structure CapabilityRegistry where
  ciphers : Dictionary (Handle Cipher)
  assistedQueries : Dictionary (Handle AssistedQuery)
  likeQueries : Dictionary (Handle LikeQuery)
  types : Dictionary String

namespace CapabilityRegistry

def empty : CapabilityRegistry := ⟨Dictionary.empty, Dictionary.empty, Dictionary.empty, Dictionary.empty⟩

instance : Inhabited CapabilityRegistry := ⟨empty⟩

def fileUnder {α : Type} (map : Dictionary α) (name : String) (claims : Bool) :
    Option α → Dictionary α
  | some handle => if claims then map.insert name handle else map
  | none => map

/-- Files an encryptor's instance under its name. -/
def classify (registry : CapabilityRegistry) (name : String) (made : Instance) :
    CapabilityRegistry :=
  { ciphers := fileUnder registry.ciphers name (made.capabilities.has Capability.cipher) made.cipher
    assistedQueries := fileUnder registry.assistedQueries name
      (made.capabilities.has Capability.assistedQuery) made.assistedQuery
    likeQueries := fileUnder registry.likeQueries name
      (made.capabilities.has Capability.likeQuery) made.likeQuery
    types := registry.types.insert name made.type }

def findCipher? (registry : CapabilityRegistry) (name : String) : Option (Handle Cipher) :=
  registry.ciphers.find? name

def findAssistedQuery? (registry : CapabilityRegistry) (name : String) :
    Option (Handle AssistedQuery) :=
  registry.assistedQueries.find? name

def findLikeQuery? (registry : CapabilityRegistry) (name : String) : Option (Handle LikeQuery) :=
  registry.likeQueries.find? name

def contains (registry : CapabilityRegistry) (flag : Capability) (name : String) : Bool :=
  match Role.ofCapability? flag with
  | some .cipher => registry.ciphers.contains name
  | some .assistedQuery => registry.assistedQueries.contains name
  | some .likeQuery => registry.likeQueries.contains name
  | none => false

def size (registry : CapabilityRegistry) (flag : Capability) : Nat :=
  match Role.ofCapability? flag with
  | some .cipher => registry.ciphers.size
  | some .assistedQuery => registry.assistedQueries.size
  | some .likeQuery => registry.likeQueries.size
  | none => 0

/-- The instance of a name for one role: the latest type of the name, the role's flag as its
only capability, and the role's handle alone. -/
def resolve? (registry : CapabilityRegistry) (flag : Capability) (name : String) :
    Option Instance :=
  if registry.contains flag name then
    let type := (registry.types.find? name).getD ""
    match Role.ofCapability? flag with
    | some .cipher => some { type, capabilities := flag, cipher := registry.findCipher? name }
    | some .assistedQuery =>
      some { type, capabilities := flag, assistedQuery := registry.findAssistedQuery? name }
    | some .likeQuery =>
      some { type, capabilities := flag, likeQuery := registry.findLikeQuery? name }
    | none => none
  else none

end CapabilityRegistry

end ColumnCrypt
