import Xblob.Model.Io.BinaryReader

/-!
# The XBE format

The parser reads the header fields in order, then the certificate and the section headers at
the offsets the header gives, each checked against the area of the headers.  Names of sections
are resolved at the end, where they lie in that area.
-/

set_option autoImplicit false

namespace Xblob.Formats

open Xblob.Io Xblob.Io.BinaryReader

def kXbeMagic : U32 := 0x48454258

/-- `XbeHeader`. SOURCE: libs/formats/include/xblob/formats/xbe.hpp:16-37 -/
structure XbeHeader where
  magic : List U8
  signature : List U8
  baseAddress : U32
  headersSize : U32
  imageSize : U32
  imageHeaderSize : U32
  timestamp : U32
  certificateAddress : U32
  sectionCount : U32
  sectionHeadersAddress : U32
  initFlags : U32
  entryPoint : U32
  tlsAddress : U32
  peStackCommit : U32
  peHeapReserve : U32
  peHeapCommit : U32
  peBaseAddress : U32
  peImageSize : U32
  peChecksum : U32
  peTimestamp : U32
  deriving DecidableEq, Repr

/-- `XbeCertificate`. SOURCE: libs/formats/include/xblob/formats/xbe.hpp:39-52 -/
structure XbeCertificate where
  size : U32 := 0
  timestamp : U32 := 0
  titleId : U32 := 0
  titleName : String := ""
  altTitleIds : List U32 := []
  allowedMedia : U32 := 0
  gameRegion : U32 := 0
  gameRatings : U32 := 0
  diskNumber : U32 := 0
  version : U32 := 0
  lanKey : List U8 := List.replicate 16 0
  sigKey : List U8 := List.replicate 16 0
  deriving DecidableEq, Repr

/-- `XbeSection`. SOURCE: libs/formats/include/xblob/formats/xbe.hpp:54-66 -/
structure XbeSection where
  name : String := ""
  flags : U32
  virtualAddress : U32
  virtualSize : U32
  rawAddress : U32
  rawSize : U32
  sectionNameAddress : U32
  sectionNameRefCount : U32
  headSharedPageRefCount : U32
  tailSharedPageRefCount : U32
  digest : List U8
  deriving DecidableEq, Repr

/-- `XbeInfo`. SOURCE: libs/formats/include/xblob/formats/xbe.hpp:68-72 -/
structure XbeInfo where
  header : XbeHeader
  certificate : Option XbeCertificate
  sections : List XbeSection
  deriving DecidableEq, Repr

namespace XbeParser

variable (source : ByteSource)

/-- The header, field by field. SOURCE: libs/formats/src/xbe.cpp:26-138 -/
def readHeader : Reader XbeHeader := do
  let magic ← readU32LE source
  if magic ≠ kXbeMagic then
    throw { code := .invalidMagic, message := "Assinatura mágica XBEH não encontrada" }
  else
    let signature ← readExact source 256
    let baseAddress ← readU32LE source
    let headersSize ← readU32LE source
    let imageSize ← readU32LE source
    let imageHeaderSize ← readU32LE source
    let timestamp ← readU32LE source
    let certificateAddress ← readU32LE source
    let sectionCount ← readU32LE source
    let sectionHeadersAddress ← readU32LE source
    let initFlags ← readU32LE source
    let entryPoint ← readU32LE source
    let tlsAddress ← readU32LE source
    let peStackCommit ← readU32LE source
    let peHeapReserve ← readU32LE source
    let peHeapCommit ← readU32LE source
    let peBaseAddress ← readU32LE source
    let peImageSize ← readU32LE source
    let peChecksum ← readU32LE source
    let peTimestamp ← readU32LE source
    pure
      { magic := [byteOf magic 0, byteOf magic 1, byteOf magic 2, byteOf magic 3]
        signature, baseAddress, headersSize, imageSize, imageHeaderSize, timestamp
        certificateAddress, sectionCount, sectionHeadersAddress, initFlags, entryPoint
        tlsAddress, peStackCommit, peHeapReserve, peHeapCommit, peBaseAddress, peImageSize
        peChecksum, peTimestamp }

/-- The declared size of the headers. SOURCE: libs/formats/src/xbe.cpp:140-148 -/
def checkHeadersSize (header : XbeHeader) : Result Unit :=
  if header.headersSize < 0x14C then
    .error { code := .invalidHeader, message := "Tamanho declarado de cabeçalhos XBE é inválido"
             offset := 0x108 }
  else if header.headersSize.setWidth 64 > source.size then
    .error { code := .truncatedData
             message := "Tamanho declarado de cabeçalhos excede o tamanho total do arquivo"
             offset := 0x108 }
  else
    .ok ()

/-! ## The certificate -/

/-- A field that is read if the certificate is large enough, and is 0 if the read fails. -/
def optionalU32 (certSize needed : U32) : Reader U32 := do
  if certSize ≥ needed then
    let value ← attempt (readU32LE source)
    pure (value.getD 0)
  else
    pure 0

/-- A key that is read if the certificate is large enough. -/
def optionalKey (certSize needed : U32) : Reader (List U8) := do
  if certSize ≥ needed then
    let key ← attempt (readExact source 16)
    pure (key.getD (List.replicate 16 0))
  else
    pure (List.replicate 16 0)

/-- The rest of the title skipped. -/
def skipTitle : ℕ → Reader Unit
  | 0 => pure ()
  | left + 1 => do
    let _ ← attempt (readU16LE source)
    skipTitle left

/-- The title, for the characters that are left. SOURCE: libs/formats/src/xbe.cpp:191-211 -/
def readTitle : ℕ → Reader (List Char)
  | 0 => pure []
  | left + 1 => do
    let ch ← attempt (readU16LE source)
    match ch with
    | none => pure []
    | some ch =>
      if ch = 0 then do
        skipTitle source left
        pure []
      else do
        let rest ← readTitle left
        pure ((if ch < 128 then Char.ofNat ch.toNat else '?') :: rest)

/-- The alternative title ids that are not 0. SOURCE: libs/formats/src/xbe.cpp:214-222 -/
def readAltTitleIds : ℕ → Reader (List U32)
  | 0 => pure []
  | left + 1 => do
    let id ← attempt (readU32LE source)
    let rest ← readAltTitleIds left
    pure (if id.getD 0 ≠ 0 then id.getD 0 :: rest else rest)

/-- The fields of a certificate of a checked size. SOURCE: libs/formats/src/xbe.cpp:178-254 -/
def readCertificateFields (certSize : U32) : Reader XbeCertificate := do
  let timestamp ← optionalU32 source certSize 8
  let titleId ← optionalU32 source certSize 12
  let title ← if certSize ≥ 92 then readTitle source 40 else pure []
  let altTitleIds ← if certSize ≥ 156 then readAltTitleIds source 16 else pure []
  let allowedMedia ← optionalU32 source certSize 160
  let gameRegion ← optionalU32 source certSize 164
  let gameRatings ← optionalU32 source certSize 168
  let diskNumber ← optionalU32 source certSize 172
  let version ← optionalU32 source certSize 176
  let lanKey ← optionalKey source certSize 192
  let sigKey ← optionalKey source certSize 208
  pure
    { size := certSize, timestamp, titleId, titleName := String.ofList title, altTitleIds
      allowedMedia, gameRegion, gameRatings, diskNumber, version, lanKey, sigKey }

/-- The certificate, if the header has an address for it.
SOURCE: libs/formats/src/xbe.cpp:150-257 -/
def readCertificate (header : XbeHeader) : Reader (Option XbeCertificate) := do
  if header.certificateAddress = 0 then
    pure none
  else if header.certificateAddress < header.baseAddress then
    throw { code := .outOfBounds
            message := "Endereço virtual do certificado está antes do endereço base"
            offset := 0x118 }
  else
    let certOffset : U64 := (header.certificateAddress - header.baseAddress).setWidth 64
    if !rangeInBounds certOffset 4 (header.headersSize.setWidth 64) then
      throw { code := .outOfBounds
              message := "Offset do certificado está fora da área de cabeçalhos"
              offset := certOffset }
    else
      seek source certOffset
      let certSize ← readU32LE source
      if certSize < 4 ||
          !rangeInBounds certOffset (certSize.setWidth 64) (header.headersSize.setWidth 64) then
        throw { code := .outOfBounds
                message := "Tamanho ou limites do certificado são inválidos"
                offset := certOffset }
      else
        let cert ← readCertificateFields source certSize
        pure (some cert)

/-! ## The sections -/

/-- A section header. SOURCE: libs/formats/src/xbe.cpp:286-346 -/
def readSection : Reader XbeSection := do
  let flags ← readU32LE source
  let virtualAddress ← readU32LE source
  let virtualSize ← readU32LE source
  let rawAddress ← readU32LE source
  let rawSize ← readU32LE source
  let sectionNameAddress ← readU32LE source
  let sectionNameRefCount ← readU32LE source
  let headSharedPageRefCount ← readU32LE source
  let tailSharedPageRefCount ← readU32LE source
  let digest ← readExact source 20
  if rawSize > 0 && !rangeInBounds (rawAddress.setWidth 64) (rawSize.setWidth 64) source.size then
    throw { code := .outOfBounds
            message := "Dados brutos da seção XBE extrapolam o tamanho do arquivo"
            offset := rawAddress.setWidth 64 }
  else
    pure
      { flags, virtualAddress, virtualSize, rawAddress, rawSize, sectionNameAddress
        sectionNameRefCount, headSharedPageRefCount, tailSharedPageRefCount, digest }

/-- The section headers, for those that are left. -/
def readSections : ℕ → Reader (List XbeSection)
  | 0 => pure []
  | left + 1 => do
    let sec ← readSection source
    let rest ← readSections left
    pure (sec :: rest)

/-- The printable characters of a name, for the bytes that are left.
SOURCE: libs/formats/src/xbe.cpp:356-365 -/
def readName : ℕ → Reader (List Char)
  | 0 => pure []
  | left + 1 => do
    let ch ← attempt (readU8 source)
    match ch with
    | none => pure []
    | some ch =>
      if ch = 0 then
        pure []
      else do
        let rest ← readName left
        pure (if 32 ≤ ch ∧ ch ≤ 126 then Char.ofNat ch.toNat :: rest else rest)

/-- The name of a section, if it lies in the headers. SOURCE: libs/formats/src/xbe.cpp:349-369 -/
def resolveName (header : XbeHeader) (sec : XbeSection) : Reader XbeSection := do
  if sec.sectionNameAddress ≥ header.baseAddress then
    let nameOffset : U64 := (sec.sectionNameAddress - header.baseAddress).setWidth 64
    if nameOffset < header.headersSize.setWidth 64 then
      let sought ← attempt (seek source nameOffset)
      match sought with
      | none => pure sec
      | some () => do
        let name ← readName source 64
        pure { sec with name := String.ofList name }
    else
      pure sec
  else
    pure sec

/-- The names of the sections, looked up one after the other. -/
def resolveNames (header : XbeHeader) : List XbeSection → Reader (List XbeSection)
  | [] => pure []
  | sec :: rest => do
    let sec ← resolveName source header sec
    let rest ← resolveNames header rest
    pure (sec :: rest)

/-- The sections, if there are any. SOURCE: libs/formats/src/xbe.cpp:259-370 -/
def readSectionTable (header : XbeHeader) : Reader (List XbeSection) := do
  if header.sectionCount = 0 then
    pure []
  else if header.sectionCount > 1024 then
    throw { code := .invalidField
            message := "Quantidade de seções XBE excede limite seguro (1024)", offset := 0x11C }
  else if header.sectionHeadersAddress < header.baseAddress then
    throw { code := .outOfBounds
            message := "Endereço dos cabeçalhos de seção antes do endereço base"
            offset := 0x120 }
  else
    let offset : U64 := (header.sectionHeadersAddress - header.baseAddress).setWidth 64
    let total : U64 := header.sectionCount.setWidth 64 * 56
    if !rangeInBounds offset total (header.headersSize.setWidth 64) then
      throw { code := .outOfBounds
              message := "Tabela de cabeçalhos de seção extrapola a área de cabeçalhos"
              offset := offset }
    else
      seek source offset
      let sections ← readSections source header.sectionCount.toNat
      resolveNames source header sections

/-- Everything after the test of the size. SOURCE: libs/formats/src/xbe.cpp:26-373 -/
def readInfo : Reader XbeInfo := do
  let header ← readHeader source
  ofExcept (checkHeadersSize source header)
  let certificate ← readCertificate source header
  let sections ← readSectionTable source header
  pure { header, certificate, sections }

/-- `XbeParser::Parse`. SOURCE: libs/formats/src/xbe.cpp:20-373 -/
def parse : Result XbeInfo :=
  if source.size < 0x14C then
    .error { code := .truncatedData
             message := "Arquivo é menor que o cabeçalho mínimo obrigatório de XBE"
             offset := source.size }
  else
    match (readInfo source).run 0 with
    | .ok info _ => .ok info
    | .error e _ => .error e

end XbeParser

end Xblob.Formats
