import Mathlib.Data.List.Infix
import Xblob.Model.Formats.Xbe
import Xblob.Model.Memory.AddressSpace

/-!
# The XBE loader

Loading has two phases.  `Plan` parses a file and checks it, without touching memory; `Apply`
saves what is in memory where the image goes, writes the headers, the sections and the
trampolines of the imports, and puts everything back if a step fails.
-/

set_option autoImplicit false

namespace Xblob.Loader

open Xblob.Computation Xblob.Formats Xblob.Io Xblob.Memory

/-- `SectionPlan`. SOURCE: libs/loader/include/xblob/loader/loader_types.hpp:12-25 -/
structure SectionPlan where
  name : String := ""
  virtualAddress : GuestAddr := 0
  virtualSize : GuestSize := 0
  rawAddress : U32 := 0
  rawSize : GuestSize := 0
  flags : U32 := 0
  permissions : MemoryPermission := .read
  zeroFillSize : GuestSize := 0
  deriving DecidableEq, Repr

/-- `ImportThunkPlan`. SOURCE: libs/loader/include/xblob/loader/loader_types.hpp:27-31 -/
structure ImportThunkPlan where
  ordinal : U32
  thunkAddress : GuestAddr
  name : String := ""
  deriving DecidableEq, Repr

/-- `XbeLoadPlan`. SOURCE: libs/loader/include/xblob/loader/loader_types.hpp:33-48 -/
structure XbeLoadPlan where
  baseAddress : GuestAddr := 0
  headersSize : GuestSize := 0
  imageSize : GuestSize := 0
  entryPoint : GuestAddr := 0
  headersPermissions : MemoryPermission := .read
  sections : List SectionPlan := []
  isDiagnosticEligible : Bool := false
  diagnosticEligibilityReason : String := ""
  importThunks : List ImportThunkPlan := []
  deriving DecidableEq, Repr

/-! ## Planning -/

/-- `virtual_end`, in 64 bits. -/
def SectionPlan.virtualEnd (sec : SectionPlan) : ℕ :=
  sec.virtualAddress.toNat + sec.virtualSize.toNat

/-- The checks of the header. SOURCE: libs/loader/src/xbe_loader.cpp:36-69 -/
def checkHeader (source : ByteSource) (hdr : XbeHeader) : Result Unit :=
  if hdr.tlsAddress ≠ 0 then
    .error { code := .unsupportedFeature, message := "TLS não suportado na fundação do loader XBE"
             offset := hdr.tlsAddress.setWidth 64 }
  else if hdr.headersSize = 0 then
    .error { code := .invalidField, message := "Tamanho dos cabeçalhos não pode ser zero" }
  else if hdr.imageSize = 0 then
    .error { code := .invalidField, message := "Tamanho da imagem não pode ser zero" }
  else if hdr.headersSize > hdr.imageSize then
    .error { code := .outOfBounds
             message := "Tamanho dos cabeçalhos excede o tamanho total da imagem"
             offset := hdr.headersSize.setWidth 64 }
  else if hdr.headersSize.setWidth 64 > source.size then
    .error { code := .truncatedData
             message := "Tamanho dos cabeçalhos ultrapassa o tamanho do arquivo"
             offset := hdr.headersSize.setWidth 64 }
  else if hdr.baseAddress.toNat + hdr.imageSize.toNat > 0x100000000 then
    .error { code := .integerOverflow
             message := "Imagem extrapola espaço de endereçamento de 32 bits"
             offset := hdr.baseAddress.setWidth 64 }
  else if hdr.entryPoint < hdr.baseAddress ∨
      hdr.entryPoint.toNat ≥ hdr.baseAddress.toNat + hdr.imageSize.toNat then
    .error { code := .outOfBounds, message := "Entry point fora dos limites da imagem"
             offset := hdr.entryPoint.setWidth 64 }
  else
    .ok ()

/-- Permissions of a section. SOURCE: libs/loader/src/xbe_loader.cpp:131-138 -/
def sectionPermissions (flags : U32) : MemoryPermission :=
  let perms := if flags &&& 0x04 ≠ 0 then MemoryPermission.read.union .execute else .read
  if flags &&& 0x01 ≠ 0 then perms.union .write else perms

/-- The two ranges have an address in common, as far as the loader checks it. -/
def rangesOverlap (start stop start' stop' : ℕ) : Bool := start < stop' && start' < stop

/-- The checks of a section, after those before it.
SOURCE: libs/loader/src/xbe_loader.cpp:83-129 -/
def checkSection (source : ByteSource) (hdr : XbeHeader) (planned : List SectionPlan)
    (sec : XbeSection) : Result Unit :=
  let start := sec.virtualAddress.toNat
  let stop := sec.virtualAddress.toNat + sec.virtualSize.toNat
  if sec.name = ".tls" then
    .error { code := .unsupportedFeature
             message := "Seção TLS fora do escopo do loader de fundação" }
  else if sec.flags &&& ~~~(0x3F : U32) ≠ 0 then
    .error { code := .unsupportedFeature, message := "Flags de seção XBE não suportadas"
             offset := sec.flags.setWidth 64 }
  else if sec.rawSize > sec.virtualSize then
    .error { code := .outOfBounds, message := "raw_size de seção não pode exceder virtual_size"
             offset := sec.virtualAddress.setWidth 64 }
  else if sec.rawAddress.toNat + sec.rawSize.toNat > source.size.toNat then
    .error { code := .truncatedData
             message := "Dados brutos da seção ultrapassam tamanho do arquivo"
             offset := sec.rawAddress.setWidth 64 }
  else if start < hdr.baseAddress.toNat ∨
      stop > hdr.baseAddress.toNat + hdr.imageSize.toNat then
    .error { code := .outOfBounds
             message := "Seção mapeada fora dos limites declarados da imagem"
             offset := sec.virtualAddress.setWidth 64 }
  else if rangesOverlap start stop hdr.baseAddress.toNat
      (hdr.baseAddress.toNat + hdr.headersSize.toNat) then
    .error { code := .regionOverlap, message := "Seção sobrepõe a região de cabeçalhos da imagem"
             offset := sec.virtualAddress.setWidth 64 }
  else if planned.any fun prev =>
      rangesOverlap start stop prev.virtualAddress.toNat prev.virtualEnd then
    .error { code := .regionOverlap, message := "Sobreposição entre seções consecutivas do XBE"
             offset := sec.virtualAddress.setWidth 64 }
  else
    .ok ()

/-- The plan of a section. SOURCE: libs/loader/src/xbe_loader.cpp:131-152 -/
def planSection (sec : XbeSection) : SectionPlan where
  name := sec.name
  virtualAddress := sec.virtualAddress
  virtualSize := sec.virtualSize
  rawAddress := sec.rawAddress
  rawSize := sec.rawSize
  flags := sec.flags
  permissions := sectionPermissions sec.flags
  zeroFillSize := sec.virtualSize - sec.rawSize

/-- The sections one after the other. SOURCE: libs/loader/src/xbe_loader.cpp:82-153 -/
def planSections (source : ByteSource) (hdr : XbeHeader) :
    List SectionPlan → List XbeSection → Result (List SectionPlan)
  | planned, [] => .ok planned
  | planned, sec :: rest => do
    checkSection source hdr planned sec
    planSections source hdr (planned ++ [planSection sec]) rest

/-- `std::string::find` finds something. -/
def contains (text word : String) : Bool := decide (word.toList <:+: text.toList)

/-- Whether the file is a synthetic one. SOURCE: libs/loader/src/xbe_loader.cpp:156-164 -/
def isSynthetic : Option XbeCertificate → Bool
  | none => false
  | some cert =>
    cert.titleId ≥ 0xFFFE0000 || contains cert.titleName "Synthetic" ||
      contains cert.titleName "Diagnostic" || contains cert.titleName "xblob"

/-- SOURCE: libs/loader/src/xbe_loader.cpp:166-174 -/
def eligibilityReason (synthetic : Bool) : String :=
  if synthetic then "Binário sintético diagnóstico elegível"
  else "Mídia comercial ou não elegível: apenas binários sintéticos diagnósticos xblob são " ++
    "suportados para execução."

/-- The imports that may be planned. SOURCE: libs/loader/src/xbe_loader.cpp:196-200 -/
def kAllowlist : List (U32 × String) :=
  [(10, "CreateThread"), (11, "ExitThread"), (12, "DbgPrint"), (64, "CreateEvent"),
    (65, "SetEvent"), (66, "ResetEvent"), (80, "CreateMutex"), (84, "ReleaseMutex"),
    (90, "WaitForSingleObject"), (184, "RtlAllocateHeap"), (185, "RtlFreeHeap")]

/-- An ordinal and an offset from eight bytes. SOURCE: libs/loader/src/xbe_loader.cpp:187-194 -/
def thunkEntry (data : List U8) (i : ℕ) : U32 × U32 :=
  let byte (k : ℕ) : U8 := data.getD (i * 8 + k) 0
  (word32 (byte 0) (byte 1) (byte 2) (byte 3), word32 (byte 4) (byte 5) (byte 6) (byte 7))

/-- The entries of a thunk section, of which `data` are the raw bytes. -/
def thunkEntries (sec : XbeSection) (data : List U8) : List (U32 × U32) :=
  (List.range (sec.rawSize.toNat / 8)).map (thunkEntry data)

/-- One import. SOURCE: libs/loader/src/xbe_loader.cpp:202-220 -/
def planThunk (sec : XbeSection) (thunks : List ImportThunkPlan) (entry : U32 × U32) :
    Result (List ImportThunkPlan) :=
  match kAllowlist.lookup entry.1 with
  | none =>
    .error { code := .unsupportedFeature
             message := "Ordinal de import não permitido ou não suportado"
             offset := entry.1.setWidth 64 }
  | some name =>
    if thunks.any fun existing => existing.ordinal = entry.1 then
      .error { code := .invalidArgument, message := "Ordinal de import duplicado no plano"
               offset := entry.1.setWidth 64 }
    else
      .ok (thunks ++ [{ ordinal := entry.1, thunkAddress := sec.virtualAddress + entry.2
                        name := name }])

/-- The imports of the entries, one after the other. -/
def planEntries (sec : XbeSection) :
    List ImportThunkPlan → List (U32 × U32) → Result (List ImportThunkPlan)
  | thunks, [] => .ok thunks
  | thunks, entry :: rest => do
    let thunks ← planThunk sec thunks entry
    planEntries sec thunks rest

/-- The imports of the thunk sections. SOURCE: libs/loader/src/xbe_loader.cpp:177-223 -/
def planThunks (source : ByteSource) :
    List ImportThunkPlan → List XbeSection → Result (List ImportThunkPlan)
  | thunks, [] => .ok thunks
  | thunks, sec :: rest =>
    if sec.name = ".thunk" then do
      let data ← source.readAt (sec.rawAddress.setWidth 64) sec.rawSize.toNat
      let thunks ← planEntries sec thunks (thunkEntries sec data)
      planThunks source thunks rest
    else
      planThunks source thunks rest

/-- `XbeLoader::Plan`. SOURCE: libs/loader/src/xbe_loader.cpp:27-223 -/
def plan (source : ByteSource) : Result XbeLoadPlan := do
  let xbe ← XbeParser.parse source
  let hdr := xbe.header
  checkHeader source hdr
  let sections ← planSections source hdr [] xbe.sections
  let synthetic := isSynthetic xbe.certificate
  let importThunks ← planThunks source [] xbe.sections
  .ok
    { baseAddress := hdr.baseAddress
      headersSize := hdr.headersSize
      imageSize := hdr.imageSize
      entryPoint := hdr.entryPoint
      headersPermissions := .read
      sections := sections
      isDiagnosticEligible := synthetic
      diagnosticEligibilityReason := eligibilityReason synthetic
      importThunks := importThunks }

/-! ## Applying -/

/-- `MemoryPatch`: what was at an address. SOURCE: libs/loader/src/xbe_loader.cpp:13-16 -/
structure MemoryPatch where
  addr : GuestAddr
  original : List U8
  deriving DecidableEq, Repr

/-- A load under way.  The last member is a record of what has been written, which the source
does not keep and nothing here reads. -/
structure Loading (δ : Type) where
  space : AddressSpace δ
  patches : List MemoryPatch := []
  written : List (GuestAddr × List U8) := []

section

variable {δ : Type}

/-- A write whose result is ignored. -/
def putBack (patch : MemoryPatch) (space : AddressSpace δ) : AddressSpace δ :=
  stateAfter ((AddressSpace.writeBytes patch.addr patch.original).run space)

/-- `RollbackPatches`: the newest first. SOURCE: libs/loader/src/xbe_loader.cpp:18-23 -/
def rollbackPatches (patches : List MemoryPatch) (space : AddressSpace δ) : AddressSpace δ :=
  patches.foldr putBack space

/-- The lambda `backup_range`. SOURCE: libs/loader/src/xbe_loader.cpp:229-240 -/
def backupRange (addr : GuestAddr) (size : GuestSize) : EStateM Error (Loading δ) Unit := fun l =>
  if size = 0 then
    .ok () l
  else
    match (AddressSpace.readBytes addr size.toNat).run l.space with
    | .ok buf space =>
      .ok () { l with space := space
                      patches := l.patches ++ [{ addr := addr, original := buf }] }
    | .error e space => .error e { l with space := space }

/-- `space.WriteBytes` -/
def writeRange (addr : GuestAddr) (bytes : List U8) : EStateM Error (Loading δ) Unit := fun l =>
  match (AddressSpace.writeBytes addr bytes).run l.space with
  | .ok () space => .ok () { l with space := space, written := l.written ++ [(addr, bytes)] }
  | .error e space => .error e { l with space := space }

/-- Bytes of the source, or an error of the loader's own. -/
def readSource (source : ByteSource) (offset : U64) (n : ℕ) (message : String) :
    EStateM Error (Loading δ) (List U8) :=
  match source.readAt offset n with
  | .ok bytes => pure bytes
  | .error _ => throw { code := .ioError, message := message, offset := offset }

/-- The sections' ranges saved. SOURCE: libs/loader/src/xbe_loader.cpp:249-256 -/
def backupSections : List SectionPlan → EStateM Error (Loading δ) Unit
  | [] => pure ()
  | sec :: rest => do
    backupRange sec.virtualAddress sec.virtualSize
    backupSections rest

/-- The raw bytes of a section. SOURCE: libs/loader/src/xbe_loader.cpp:275-289 -/
def writeRaw (source : ByteSource) (sec : SectionPlan) : EStateM Error (Loading δ) Unit := do
  if sec.rawSize > 0 then
    let data ← readSource source (sec.rawAddress.setWidth 64) sec.rawSize.toNat
      "Falha ao ler dados da seção"
    writeRange sec.virtualAddress data
  else
    pure ()

/-- The zeroes after them. SOURCE: libs/loader/src/xbe_loader.cpp:291-297 -/
def writeZeroes (sec : SectionPlan) : EStateM Error (Loading δ) Unit := do
  if sec.zeroFillSize > 0 then
    writeRange (sec.virtualAddress + sec.rawSize) (List.replicate sec.zeroFillSize.toNat 0)
  else
    pure ()

/-- The sections written. SOURCE: libs/loader/src/xbe_loader.cpp:273-299 -/
def writeSections (source : ByteSource) : List SectionPlan → EStateM Error (Loading δ) Unit
  | [] => pure ()
  | sec :: rest => do
    writeRaw source sec
    writeZeroes sec
    writeSections source rest

/-- `MOV EAX, ordinal; INT 0x2D; RET`. SOURCE: libs/loader/src/xbe_loader.cpp:309-319 -/
def trampoline (ordinal : U32) : List U8 :=
  [0xB8, byteOf ordinal 0, byteOf ordinal 1, byteOf ordinal 2, byteOf ordinal 3, 0xCD, 0x2D, 0xC3]

/-- The trampolines. SOURCE: libs/loader/src/xbe_loader.cpp:302-326 -/
def writeThunks : List ImportThunkPlan → EStateM Error (Loading δ) Unit
  | [] => pure ()
  | thunk :: rest => do
    backupRange thunk.thunkAddress 8
    writeRange thunk.thunkAddress (trampoline thunk.ordinal)
    writeThunks rest

/-- The steps of `Apply`. -/
def applySteps (plan : XbeLoadPlan) (source : ByteSource) : EStateM Error (Loading δ) Unit := do
  backupRange plan.baseAddress plan.headersSize
  backupSections plan.sections
  let headers ← readSource source 0 plan.headersSize.toNat "Falha ao ler cabeçalhos da fonte"
  writeRange plan.baseAddress headers
  writeSections source plan.sections
  writeThunks plan.importThunks

/-- `XbeLoader::Apply`: wherever a step fails, the patches are put back.
SOURCE: libs/loader/src/xbe_loader.cpp:225-327 -/
def apply (plan : XbeLoadPlan) (source : ByteSource) : EStateM Error (AddressSpace δ) Unit :=
  fun space =>
    match (applySteps plan source).run { space := space } with
    | .ok () l => .ok () l.space
    | .error e l => .error e (rollbackPatches l.patches l.space)

end

end Xblob.Loader
