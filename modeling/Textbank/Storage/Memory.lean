import Textbank.Storage.Basic
/-!
# Storage in memory

A store that keeps everything in maps and can be told to refuse writes.
-/

namespace Textbank

/-- A store in memory. -/
structure MemoryStore where
  config : Config
  documents : AscMap BankId String := ∅
  resources : AscMap String String := ∅
  outputs : AscMap String String := ∅
  /-- Whether writes are refused. -/
  readOnly : Bool := false

namespace MemoryStore

/-- Where the store says that a name lies. -/
def locate (name : String) : String := "memory://" ++ name

instance : Storage MemoryStore where
  config s := s.config
  contains s id := s.documents.contains id
  document? s id := .ok (s.documents.find? id)
  resource? s name := .ok (s.resources.find? name)
  location s id := locate (.ofList (s.config.stemChars id ++ Config.extension))
  bankIds s := .ok s.documents.keys
  putDocument s id text :=
    if s.readOnly then (.error .writeRefused, s)
    else (.ok (), { s with documents := s.documents.insert id text })
  putOutput s name text :=
    if s.readOnly then (.error .writeRefused, s)
    else
      (.ok (locate (outputFolder ++ "/" ++ name)), { s with outputs := s.outputs.insert name text })

end MemoryStore

end Textbank
