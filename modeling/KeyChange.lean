import KeyChange.Bundle
import KeyChange.Bytes
import KeyChange.Curve.Edwards
import KeyChange.Curve.Field
import KeyChange.Curve.Secp256k1
import KeyChange.Curve.Stark
import KeyChange.Curve.Weierstrass
import KeyChange.Decimal.Binary64
import KeyChange.DecimalFloat
import KeyChange.Error
import KeyChange.Ethereum.Address
import KeyChange.Ethereum.Key
import KeyChange.Ethereum.Signature
import KeyChange.Fee
import KeyChange.Hash.Hmac
import KeyChange.Hash.Keccak
import KeyChange.Hash.Pedersen
import KeyChange.Hash.Sha2
import KeyChange.Hash.Sha256
import KeyChange.Hash.Sha512
import KeyChange.Hex
import KeyChange.Json.Document
import KeyChange.Json.Number
import KeyChange.Json.Read
import KeyChange.Json.Scan
import KeyChange.Json.Value
import KeyChange.Owner.Chain
import KeyChange.Owner.Signature
import KeyChange.Proofs.Acceptance
import KeyChange.Proofs.AccountMessage
import KeyChange.Proofs.ApprovalChain
import KeyChange.Proofs.ApprovalPreimage
import KeyChange.Proofs.ApprovalText
import KeyChange.Proofs.ApprovedBundle
import KeyChange.Proofs.BoundAddress
import KeyChange.Proofs.BundleOrigin
import KeyChange.Proofs.BundleText
import KeyChange.Proofs.BundledTransaction
import KeyChange.Proofs.CarriedAuthorization
import KeyChange.Proofs.ChainParameters
import KeyChange.Proofs.ContractWitness
import KeyChange.Proofs.DecimalFloat
import KeyChange.Proofs.DecimalText
import KeyChange.Proofs.Fee
import KeyChange.Proofs.FeltText
import KeyChange.Proofs.HandedOut
import KeyChange.Proofs.HexDigits
import KeyChange.Proofs.HexText
import KeyChange.Proofs.JsonLeaf
import KeyChange.Proofs.JsonRecord
import KeyChange.Proofs.JsonText
import KeyChange.Proofs.KeyValue
import KeyChange.Proofs.Layout
import KeyChange.Proofs.MachinePacking
import KeyChange.Proofs.MachineUnpacking
import KeyChange.Proofs.MachineWord
import KeyChange.Proofs.MessageDomains
import KeyChange.Proofs.MessageElements
import KeyChange.Proofs.NewSigner
import KeyChange.Proofs.Origin
import KeyChange.Proofs.Outcome
import KeyChange.Proofs.Packing
import KeyChange.Proofs.PedersenChain
import KeyChange.Proofs.PrefixedHex
import KeyChange.Proofs.Range
import KeyChange.Proofs.Rebuild
import KeyChange.Proofs.RequestRules
import KeyChange.Proofs.RequestText
import KeyChange.Proofs.Secrecy
import KeyChange.Proofs.SecretText
import KeyChange.Proofs.SignatureFormats
import KeyChange.Proofs.SignatureText
import KeyChange.Proofs.SignedAgain
import KeyChange.Proofs.Signing
import KeyChange.Proofs.SuppliedSignature
import KeyChange.Proofs.SuppliedText
import KeyChange.Proofs.TextReaders
import KeyChange.Proofs.Unpacking
import KeyChange.Rollup.Key
import KeyChange.Rollup.Signature
import KeyChange.Secret
import KeyChange.Signature.Ed25519
import KeyChange.Signature.Recoverable
import KeyChange.Signature.StarkEcdsa
import KeyChange.Signature.Text
import KeyChange.Signer
import KeyChange.Starknet.Felt
import KeyChange.Starknet.Key
import KeyChange.Starknet.Message
import KeyChange.Starknet.Signature
import KeyChange.Text.Hidden
import KeyChange.Text.Quoted
import KeyChange.Transaction.Authorization
import KeyChange.Transaction.Basic
import KeyChange.Transaction.Create2
import KeyChange.Transaction.Layout
import KeyChange.Transaction.Request
