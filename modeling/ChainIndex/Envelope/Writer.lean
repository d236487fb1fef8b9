import ChainIndex.Envelope.Raw
import ChainIndex.Wire.Writer

/-!
# Writing envelopes

The bytes of each message of an envelope: its fields by number, defaults left out.
-/

namespace ChainIndex.Raw

open Wire

def Any.write (a : Any) : List UInt8 :=
  Writer.text 1 a.typeUrl ++ Writer.bytes 2 a.value

def writeCoin (c : Coin) : List UInt8 :=
  Writer.text 1 c.denom ++ Writer.int64 2 c.amount

def Fee.write (f : Fee) : List UInt8 :=
  Writer.int64 1 f.gasWanted ++ Writer.message? 2 writeCoin f.gasFee

def Signature.write (s : Signature) : List UInt8 :=
  Writer.message? 1 Any.write s.publicKey ++ Writer.bytes 2 s.signature

def Tx.write (t : Tx) : List UInt8 :=
  Writer.messages 1 Any.write t.messages.toList ++ Writer.message? 2 Fee.write t.fee ++
    Writer.messages 3 Signature.write t.signatures.toList ++ Writer.text 4 t.memo

def File.write (f : File) : List UInt8 :=
  Writer.text 1 f.name ++ Writer.text 2 f.body

def Package.write (p : Package) : List UInt8 :=
  Writer.text 1 p.name ++ Writer.text 2 p.path ++ Writer.messages 3 File.write p.files.toList

def Send.write (m : Send) : List UInt8 :=
  Writer.bytes 1 m.fromAddress ++ Writer.bytes 2 m.toAddress ++ Writer.messages 3 writeCoin m.amount.toList

def Call.write (m : Call) : List UInt8 :=
  Writer.bytes 1 m.caller ++ Writer.messages 2 writeCoin m.send.toList ++
    Writer.messages 3 writeCoin m.maxDeposit.toList ++ Writer.text 4 m.path ++ Writer.text 5 m.function ++
    Writer.texts 6 m.args.toList

def AddPackage.write (m : AddPackage) : List UInt8 :=
  Writer.bytes 1 m.creator ++ Writer.message? 2 Package.write m.package ++
    Writer.messages 3 writeCoin m.send.toList ++ Writer.messages 4 writeCoin m.maxDeposit.toList

def Run.write (m : Run) : List UInt8 :=
  Writer.bytes 1 m.caller ++ Writer.messages 2 writeCoin m.send.toList ++
    Writer.messages 3 writeCoin m.maxDeposit.toList ++ Writer.message? 4 Package.write m.package

end ChainIndex.Raw
