import BpfSimulator.MessageExecutor.Loader

/-! Loading the accounts of a transaction: the accounts the message names, and
behind them the owners that the program of each instruction needs. -/

set_option autoImplicit false

namespace BpfSimulator

abbrev TransactionAccount := Pubkey × Account

structure RentDebit where
  rentCollected : UInt64
  postBalance : UInt64

structure LoadedTransaction where
  accounts : List TransactionAccount
  programIndices : List (List UInt16)
  rent : UInt64
  rentDebits : List (Pubkey × RentDebit)

/-- `construct_instructions_data` of the decompiled instructions of a message.
It panics where it gives no answer. -/
abbrev InstructionsData := SanitizedMessage → Option (List UInt8)

namespace AccountLoader

variable {Programs : Type} (constructInstructionsData : InstructionsData) (loader : AccountLoader Programs)

def constructInstructionsAccount (message : SanitizedMessage) : Option Account :=
  (constructInstructionsData message).map fun data =>
    { Account.default with
      data
      owner := sysvarId }

/-- The key loop of `load_transaction_accounts`, for one key. -/
def loadMessageAccount (message : SanitizedMessage) (key : Pubkey) : Except LoadError TransactionAccount :=
  if key = instructionsSysvarId then
    match constructInstructionsAccount constructInstructionsData message with
    | none => throw .panicked
    | some account => pure (key, account)
  else do
    match ← loader.getAccountWithFixedRoot key with
    | none => throw (.transaction .accountNotFound)
    | some account => pure (key, account)

/-- Where the owner of a program is among the loaded accounts. Only those from
`builtinsStartIndex` on are searched, and a missing one is appended. -/
def findOwner (builtinsStartIndex : Nat) (accounts : List TransactionAccount) (ownerId : Pubkey) :
    Except LoadError (List TransactionAccount × Nat) :=
  if accounts.length < builtinsStartIndex then throw (.transaction .programAccountNotFound)
  else
    match (accounts.drop builtinsStartIndex).findIdx? (fun account => account.1 = ownerId) with
    | some ownerIndex => pure (accounts, builtinsStartIndex + ownerIndex)
    | none => do
        match ← loader.getAccountWithFixedRoot ownerId with
        | none => throw (.transaction .programAccountNotFound)
        | some ownerAccount => pure (accounts ++ [(ownerId, ownerAccount)], accounts.length)

/-- The rounds that are left of the search for the native loader. -/
def resolveProgram (builtinsStartIndex : Nat) : Nat → List TransactionAccount → List UInt16 → Nat →
    Except LoadError (List TransactionAccount × List UInt16)
  | 0, _, _, _ => throw (.transaction .callChainTooDeep)
  | rounds + 1, accounts, accountIndices, programIndex =>
      match accounts[programIndex]? with
      | none => throw (.transaction .programAccountNotFound)
      | some (programId, programAccount) =>
          if programId = nativeLoaderId then pure (accounts, accountIndices)
          else
            let accountIndices := UInt16.ofNat programIndex :: accountIndices
            if programAccount.owner = nativeLoaderId then pure (accounts, accountIndices)
            else do
              let (accounts, ownerIndex) ← loader.findOwner builtinsStartIndex accounts programAccount.owner
              resolveProgram builtinsStartIndex rounds accounts accountIndices ownerIndex

/-- The instruction loop of `load_transaction_accounts`. -/
def resolvePrograms (builtinsStartIndex : Nat) : List CompiledInstruction → List TransactionAccount →
    List (List UInt16) → Except LoadError (List TransactionAccount × List (List UInt16))
  | [], accounts, programIndices => pure (accounts, programIndices)
  | instruction :: rest, accounts, programIndices => do
      let (accounts, accountIndices) ←
        loader.resolveProgram builtinsStartIndex 5 accounts [] instruction.programIdIndex.toNat
      resolvePrograms builtinsStartIndex rest accounts (programIndices ++ [accountIndices])

def loadTransactionAccounts (message : SanitizedMessage) : Except LoadError LoadedTransaction := do
  let accounts ← message.accountKeys.mapM (loader.loadMessageAccount constructInstructionsData message)
  let builtinsStartIndex := accounts.length
  let (accounts, programIndices) ← loader.resolvePrograms builtinsStartIndex message.instructions accounts []
  pure { accounts, programIndices, rent := 0, rentDebits := [] }

end AccountLoader

end BpfSimulator
