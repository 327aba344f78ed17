import Recipients.Address
import Recipients.Address.Parser
import Recipients.Address.Printer
import Recipients.Address.Token
import Recipients.AddressList
import Recipients.AddressList.Parser
import Recipients.AddressList.Printer
import Recipients.Alias
import Recipients.Alias.Expansion
import Recipients.Alias.File
import Recipients.Alias.Printer
import Recipients.Alias.Registry
import Recipients.Book
import Recipients.Book.Commands
import Recipients.Book.Source
import Recipients.Charset
import Recipients.Charset.Chinese
import Recipients.Charset.Index
import Recipients.Charset.Index.Big5
import Recipients.Charset.Index.Gb18030
import Recipients.Charset.Index.Jis0208
import Recipients.Charset.Index.Jis0212
import Recipients.Charset.Index.KsX1001
import Recipients.Charset.Japanese
import Recipients.Charset.Korean
import Recipients.Charset.SingleByte
import Recipients.Charset.Utf16
import Recipients.Charset.Utf8
import Recipients.Classification.Alternates
import Recipients.Classification.MailingLists
import Recipients.Command.Error
import Recipients.Command.Grouped
import Recipients.Command.Line
import Recipients.Command.Lines
import Recipients.Command.Quoting
import Recipients.Command.Token
import Recipients.CommandLine.Invocation
import Recipients.CommandLine.Report
import Recipients.CommandLine.Run
import Recipients.CommandLine.Switch
import Recipients.Directory
import Recipients.Domain.Conversion
import Recipients.Domain.Label
import Recipients.Domain.Mapping
import Recipients.Domain.Punycode
import Recipients.Envelope
import Recipients.Environment
import Recipients.Failure
import Recipients.Files
import Recipients.Files.Disk
import Recipients.Group
import Recipients.Group.Registry
import Recipients.Json
import Recipients.Json.Parser
import Recipients.Mailbox
import Recipients.Main
import Recipients.Pattern
import Recipients.Pattern.Bracketed
import Recipients.Pattern.CharClass
import Recipients.Pattern.Escape
import Recipients.Pattern.Flags
import Recipients.Pattern.List
import Recipients.Pattern.Parser
import Recipients.Pattern.Regex
import Recipients.Proofs.Address.Built
import Recipients.Proofs.Address.Followed
import Recipients.Proofs.Address.Grammar
import Recipients.Proofs.Address.Made
import Recipients.Proofs.Address.MailboxByCharacter
import Recipients.Proofs.Address.Marks
import Recipients.Proofs.Address.Reading
import Recipients.Proofs.Address.Recorded
import Recipients.Proofs.Address.Shown
import Recipients.Proofs.Address.TokensByCharacter
import Recipients.Proofs.Address.WellFormed
import Recipients.Proofs.AddressList.ByCharacter
import Recipients.Proofs.AddressList.Conversion
import Recipients.Proofs.AddressList.Dedupe
import Recipients.Proofs.AddressList.Folding
import Recipients.Proofs.AddressList.FreeText
import Recipients.Proofs.AddressList.Joined
import Recipients.Proofs.AddressList.Legible
import Recipients.Proofs.AddressList.Onto
import Recipients.Proofs.AddressList.Outcome
import Recipients.Proofs.AddressList.Parsed
import Recipients.Proofs.AddressList.Removal
import Recipients.Proofs.AddressList.Reread
import Recipients.Proofs.AddressList.RoundTrip
import Recipients.Proofs.AddressList.Scan
import Recipients.Proofs.AddressList.Shown
import Recipients.Proofs.AddressList.Spacing
import Recipients.Proofs.AddressList.Written
import Recipients.Proofs.Alias.Changes
import Recipients.Proofs.Alias.Comment
import Recipients.Proofs.Alias.DefinitionOrder
import Recipients.Proofs.Alias.File
import Recipients.Proofs.Alias.FixedPoint
import Recipients.Proofs.Alias.Index
import Recipients.Proofs.Alias.Line
import Recipients.Proofs.Alias.Listing
import Recipients.Proofs.Alias.Nesting
import Recipients.Proofs.Alias.Reachability
import Recipients.Proofs.Alias.Qualification
import Recipients.Proofs.Alias.ReadBack
import Recipients.Proofs.Alias.Recursion
import Recipients.Proofs.Alias.Tokens
import Recipients.Proofs.Alias.Unfolding
import Recipients.Proofs.Alias.Watching
import Recipients.Proofs.Book.Append
import Recipients.Proofs.Book.FailedDefinition
import Recipients.Proofs.Book.GroupWords
import Recipients.Proofs.Book.Groups
import Recipients.Proofs.Book.OwnLogin
import Recipients.Proofs.Book.SafeNames
import Recipients.Proofs.Book.Saved
import Recipients.Proofs.Book.Sequence
import Recipients.Proofs.Book.Steps
import Recipients.Proofs.Book.Ungroup
import Recipients.Proofs.Book.Wire
import Recipients.Proofs.Book.WordByWord
import Recipients.Proofs.Book.WordLoops
import Recipients.Proofs.Charset.Chinese
import Recipients.Proofs.Charset.Coding
import Recipients.Proofs.Charset.Gb18030
import Recipients.Proofs.Charset.Index
import Recipients.Proofs.Charset.Iso2022Jp
import Recipients.Proofs.Charset.Japanese
import Recipients.Proofs.Charset.Pairs
import Recipients.Proofs.Charset.Recode
import Recipients.Proofs.Charset.Utf8
import Recipients.Proofs.Charset.Written
import Recipients.Proofs.Classification.Changes
import Recipients.Proofs.Classification.Consistency
import Recipients.Proofs.Classification.Rejection
import Recipients.Proofs.Classification.Subscription
import Recipients.Proofs.Command.Cursor
import Recipients.Proofs.Command.Lines
import Recipients.Proofs.Command.Partition
import Recipients.Proofs.Command.Plain
import Recipients.Proofs.Command.Quoting
import Recipients.Proofs.Command.Spelled
import Recipients.Proofs.CommandLine.Adding
import Recipients.Proofs.Domain.Ascii
import Recipients.Proofs.Domain.Converter
import Recipients.Proofs.Files.Disk
import Recipients.Proofs.Group.Filled
import Recipients.Proofs.Group.Mailboxes
import Recipients.Proofs.Group.Members
import Recipients.Proofs.Group.Registry
import Recipients.Proofs.Loop
import Recipients.Proofs.Mailbox
import Recipients.Proofs.Pattern.List
import Recipients.Proofs.Position
import Recipients.Proofs.Reader
import Recipients.Proofs.Text
import Recipients.Settings
import Recipients.Settings.Stored
import Recipients.Text
import Recipients.Tools
import Recipients.Unicode.Alphanumeric
import Recipients.Unicode.Bidi
import Recipients.Unicode.BinaryProperty
import Recipients.Unicode.Capital
import Recipients.Unicode.CaseFolding
import Recipients.Unicode.Category
import Recipients.Unicode.CodeSet
import Recipients.Unicode.Joining
import Recipients.Unicode.Normalization
import Recipients.Unicode.Normalization.Tables
import Recipients.Unicode.Property
import Recipients.Unicode.Script
import Recipients.Unicode.Version
